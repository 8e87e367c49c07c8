import Cyberjack.Ctapi.ShowDialog
import Cyberjack.Foundation.History

namespace Cyberjack.Libdialog

open Cyberjack.Foundation Cyberjack.Ctapi.ShowDialog

/-! # The dialog beside a PIN command

`dialog.c` in the driver, the window of `dlg.cpp` in its server, and the keys that `ctapi.cpp` is told of
while a command runs.
-/

def cText (text : String) : List UInt8 := text.toList.map fun letter => UInt8.ofNat letter.toNat

inductive Request where
  | openDialog (stages : Nat) (keyTimeout : UInt8) (title textStage0 textStage1 textStage2 : List UInt8)
  | closeDialog (dialogId : Nat)
  | setStage (dialogId stage : Nat)
  | setCharNum (dialogId charNum beep : Nat)

/-! ## The window -/

/-- A `CyberJackDialog`; `socket` is whether it has one, `entered` the number of stars, `beeps` counts the
beeps. -/
structure Window where
  socket : Bool
  title : List UInt8
  stages : Nat
  keyTimeout : UInt8
  currentStage : Int
  textStage0 : List UInt8
  textStage1 : List UInt8
  textStage2 : List UInt8
  textLabel : List UInt8
  stageLabel : List UInt8
  entered : Nat
  beeps : Nat
  lastDialogId : Nat

def newWindow : Window := ⟨true, cText "Reiner SCT cyberJack", 0, 15, -1, [], [], [], [], [], 0, 0, 0⟩

def stageText (stage stages : Nat) : List UInt8 :=
  if stages > 1 then cText (toString (stage + 1) ++ "/" ++ toString stages) else []

def Window.setStage (window : Window) (stage : Nat) : Window :=
  { window with
    textLabel :=
      match stage with
      | 0 => window.textStage0
      | 1 => window.textStage1
      | 2 => window.textStage2
      | _ => window.textLabel
    currentStage := stage
    stageLabel := stageText stage window.stages
    entered := 0 }

def orText (text : List UInt8) (standard : String) : List UInt8 := if text = [] then cText standard else text

def Window.handleOpenDialog (window : Window) (stages : Nat) (keyTimeout : UInt8)
    (title textStage0 textStage1 textStage2 : List UInt8) : Window :=
  let window := { window with
    title := title
    stages := stages
    keyTimeout := keyTimeout
    lastDialogId := window.lastDialogId + 1 }
  let window :=
    match stages with
    | 1 => { window with
        textStage0 := orText textStage0 "Please enter your PIN into the reader's keypad" }
    | 2 => { window with
        textStage0 := orText textStage0 "Please enter the new PIN into the reader's keypad"
        textStage1 := orText textStage1 "Please repeat entering the new PIN into the reader's keypad" }
    | 3 => { window with
        textStage0 := orText textStage0 "Please enter the current PIN into the reader's keypad"
        textStage1 := orText textStage1 "Please enter the new PIN into the reader's keypad"
        textStage2 := orText textStage2 "Please repeat entering the new PIN into the reader's keypad" }
    | _ => window
  window.setStage 0

/-- The results of the answers are 0. -/
def Window.handleMessage (window : Window) : Request → Window
  | .openDialog stages keyTimeout title textStage0 textStage1 textStage2 =>
      window.handleOpenDialog stages keyTimeout title textStage0 textStage1 textStage2
  | .closeDialog _ => { window with socket := false }
  | .setStage _ stage => window.setStage stage
  | .setCharNum _ charNum beep =>
      { window with entered := charNum, beeps := if beep > 0 then window.beeps + 1 else window.beeps }

/-- At the end of the stream `rsct_net_recv` returns 0, and a message of zeros is handled; it cannot be
answered. -/
def Window.endOfStream (window : Window) : Window :=
  { window.handleMessage (.openDialog 0 0 [] [] [] []) with socket := false }

/-! ## The driver -/

/-- What becomes of a request.  `disconnected` is where `rsct_net_recv` returns 0. -/
inductive Exchange where
  | answered
  | sendFailed
  | unanswered (handled : Bool)
  | disconnected (handled : Bool)
deriving Repr, DecidableEq

/-- The number of the dialog in the answer, where the call does not fail; without an answer the buffer holds
zeros.  Where the call fails the socket is closed. -/
def exchange (window : Window) (request : Request) : Exchange → Option Nat × Window
  | .answered =>
      if window.socket then (some (window.handleMessage request).lastDialogId, window.handleMessage request)
      else (none, window)
  | .sendFailed => (none, window.endOfStream)
  | .unanswered handled => (none, (if handled then window.handleMessage request else window).endOfStream)
  | .disconnected handled =>
      (some 0, { (if handled then window.handleMessage request else window) with socket := false })

/-- `RSCT_DIALOG` -/
structure Dialog where
  dialogId : Nat
  socket : Bool
  stages : Nat
  currentStage : Nat
  keyTimeout : Int
  title : List UInt8
  textStage0 : List UInt8
  textStage1 : List UInt8
  textStage2 : List UInt8
  cla : UInt8
  ins : UInt8
  numChars : Nat

structure Shown where
  dialog : Dialog
  window : Window

def RSCT_DIALOG_MAX_STAGES : Nat := 3

/-- An empty text is kept as none. -/
def rsct_dialog_new (title : List UInt8) (stages : Nat) (cla ins : UInt8) (keyTimeout : Int)
    (textStage0 textStage1 textStage2 : List UInt8) : Dialog where
  dialogId := 0
  socket := false
  stages := stages
  currentStage := 0
  keyTimeout := keyTimeout
  title := orText title "Reiner SCT cyberJack"
  textStage0 := textStage0
  textStage1 := if stages > 1 then textStage1 else []
  textStage2 := if stages > 2 then textStage2 else []
  cla := cla
  ins := ins
  numChars := 0

/-- The message is zeroed in front of the texts. -/
def openRequest (dialog : Dialog) : Request :=
  .openDialog dialog.stages (UInt8.ofInt dialog.keyTimeout) (dialog.title.take 127)
    (if dialog.stages > 0 then dialog.textStage0.take 511 else [])
    (if dialog.stages > 1 then dialog.textStage1.take 511 else [])
    (if dialog.stages > 2 then dialog.textStage2.take 511 else [])

/-- How `rsct_dialog_open` finds the server. -/
inductive Opening where
  | noServer
  | connected (exchange : Exchange)
deriving Repr, DecidableEq

/-- `none` where it fails; `showDialogIfRequired` then frees the dialog. -/
def rsct_dialog_open (dialog : Dialog) : Opening → Option Shown
  | .noServer => none
  | .connected made =>
      match exchange newWindow (openRequest dialog) made with
      | (none, _) => none
      | (some dialogId, window) => some ⟨{ dialog with socket := true, dialogId := dialogId }, window⟩

def rsct_dialog_set_stage (shown : Shown) (stage : Nat) (made : Exchange) : Int × Shown :=
  if shown.dialog.socket = true ∧ stage < RSCT_DIALOG_MAX_STAGES then
    match exchange shown.window (.setStage shown.dialog.dialogId stage) made with
    | (none, window) => (-1, ⟨{ shown.dialog with socket := false }, window⟩)
    | (some _, window) => (0, ⟨{ shown.dialog with currentStage := stage }, window⟩)
  else (0, { shown with dialog := { shown.dialog with currentStage := stage } })

/-- Where the request cannot be sent, the answer is still asked for: of no socket. -/
def rsct_dialog_set_char_num (shown : Shown) (charNum beep : Nat) (made : Exchange) : Int × Shown :=
  if shown.dialog.socket = true then
    match exchange shown.window (.setCharNum shown.dialog.dialogId charNum beep) made with
    | (none, window) => (-1, ⟨{ shown.dialog with socket := false }, window⟩)
    | (some _, window) => (0, ⟨{ shown.dialog with numChars := charNum }, window⟩)
  else (0, { shown with dialog := { shown.dialog with numChars := charNum } })

/-- The answer is not waited for; `sent` is whether the message arrives. -/
def rsct_dialog_close (shown : Shown) (sent : Bool) : Shown :=
  if shown.dialog.socket = true then
    ⟨{ shown.dialog with socket := false },
      if sent then shown.window.handleMessage (.closeDialog shown.dialog.dialogId) else shown.window.endOfStream⟩
  else shown

/-! ## The keys -/

def RSCT_Key_Unknown : UInt8 := 0
def RSCT_Key_Digit : UInt8 := 1
def RSCT_Key_CLR : UInt8 := 3
def RSCT_Key_Ok : UInt8 := 5

inductive KeyFamily where
  | oldEcom
  | ppa
  | eca
deriving Repr, DecidableEq

def transKey (key : UInt8) : UInt8 :=
  match key with
  | 0 => RSCT_Key_Digit
  | 2 => RSCT_Key_Ok
  | 4 => RSCT_Key_CLR
  | _ => RSCT_Key_Unknown

/-- What `commonKeyCallback` is called with: `oldEcomKeyCallback` translates the key, but hands on the other
one. -/
def KeyFamily.callbackKey : KeyFamily → UInt8 → UInt8
  | .oldEcom, key => key
  | .ppa, key => transKey key
  | .eca, key => transKey key

def dialogKey (shown : Shown) (key : UInt8) (made : Exchange) : Shown :=
  if key = RSCT_Key_Digit then (rsct_dialog_set_char_num shown (shown.dialog.numChars + 1) 1 made).2
  else if key = RSCT_Key_CLR then (rsct_dialog_set_char_num shown 0 1 made).2
  else if key = RSCT_Key_Ok then
    let stage := shown.dialog.currentStage + 1
    if stage < shown.dialog.stages then (rsct_dialog_set_stage shown stage made).2 else shown
  else shown

/-- The dialog behind a key, and what the callback of the application is called with. -/
def commonKeyCallback (keyCallback : Bool) (currentDialog : Option Shown) (key : UInt8) (made : Exchange) :
    List UInt8 × Option Shown :=
  (if keyCallback then [key] else [], currentDialog.map fun shown => dialogKey shown key made)

/-! ## A command -/

/-- What the user sees. -/
structure Screen where
  title : List UInt8
  text : List UInt8
  label : List UInt8
  stars : Nat
  seconds : UInt8
deriving Repr, DecidableEq

def Window.screen (window : Window) : Option Screen :=
  if window.socket then some ⟨window.title, window.textLabel, window.stageLabel, window.entered, window.keyTimeout⟩
  else none

/-- A command, the keys that are pressed while it runs, and what becomes of the messages. -/
structure PinCommand where
  dad : UInt8
  sad : UInt8
  lenc : Nat
  command : Nat → UInt8
  family : KeyFamily
  keyCallback : Bool
  opening : Opening
  keys : List (UInt8 × Exchange)
  closing : Bool

instance (dad sad : UInt8) (lenc : Nat) (command : Nat → UInt8) : Decidable (Searched dad sad lenc command) :=
  inferInstanceAs (Decidable (_ ∧ _))

/-- What `showDialogIfRequired` finds in a command that asks for a PIN. -/
def PinCommand.seen (pin : PinCommand) : Option Inspection :=
  if Searched pin.dad pin.sad pin.lenc pin.command then scan pin.command 256 0 (nothingSeen [0, 1, 4]) else none

structure PinAnswer where
  screens : List (Option Screen)
  called : List UInt8
  left : Option Screen
deriving DecidableEq

def screenOf (currentDialog : Option Shown) : Option Screen := currentDialog.bind fun shown => shown.window.screen

/-- The keys of a command, one after the other. -/
def pressed (family : KeyFamily) (keyCallback : Bool) :
    Option Shown → List (UInt8 × Exchange) → List (Option Screen) × List UInt8 × Option Shown
  | currentDialog, [] => ([], [], currentDialog)
  | currentDialog, (key, made) :: rest =>
      let behind := commonKeyCallback keyCallback currentDialog (family.callbackKey key) made
      let later := pressed family keyCallback behind.2 rest
      (screenOf behind.2 :: later.1, behind.1 ++ later.2.1, later.2.2)

def openedDialog (pin : PinCommand) : Option Shown :=
  pin.seen.bind fun seen =>
    rsct_dialog_open (rsct_dialog_new [] seen.noOfStages (pin.command 0) (pin.command 1) seen.timeOut
      seen.customDisplayText1 seen.customDisplayText2 seen.customDisplayText3) pin.opening

/-- What `CT_data` does about the dialog. -/
def ctDataDialog : Machine (Option Shown) PinCommand PinAnswer := fun currentDialog pin =>
  let opened := if currentDialog.isNone then openedDialog pin else currentDialog
  let later := pressed pin.family pin.keyCallback opened pin.keys
  let closed := later.2.2.map fun shown => rsct_dialog_close shown pin.closing
  (⟨screenOf opened :: later.1, later.2.1, screenOf closed⟩, none)

/-! ## What the user should see -/

/-- The stage, the digits typed in it, and those of the stages before it that no CLR has taken back. -/
structure Typed where
  stage : Nat
  carried : Nat
  digits : Nat
deriving Repr, DecidableEq

def Typed.press (stages : Nat) (typed : Typed) (key : UInt8) : Typed :=
  if key = RSCT_Key_Digit then { typed with digits := typed.digits + 1 }
  else if key = RSCT_Key_CLR then { typed with carried := 0, digits := 0 }
  else if key = RSCT_Key_Ok ∧ typed.stage + 1 < stages then ⟨typed.stage + 1, typed.carried + typed.digits, 0⟩
  else typed

/-- The keys that a message is sent for. -/
def Typed.Asks (stages : Nat) (typed : Typed) (key : UInt8) : Prop :=
  key = RSCT_Key_Digit ∨ key = RSCT_Key_CLR ∨ key = RSCT_Key_Ok ∧ typed.stage + 1 < stages

instance (stages : Nat) (typed : Typed) (key : UInt8) : Decidable (typed.Asks stages key) :=
  inferInstanceAs (Decidable (_ ∨ _))

/-- The digits of the stages before are counted again with the first digit of a stage. -/
def Typed.stars (typed : Typed) : Nat := if typed.digits = 0 then 0 else typed.carried + typed.digits

def givenText (seen : Inspection) (stage : Nat) : List UInt8 :=
  match stage with
  | 0 => seen.customDisplayText1
  | 1 => seen.customDisplayText2
  | _ => seen.customDisplayText3

def standardText (stages stage : Nat) : String :=
  if stages = 1 then "Please enter your PIN into the reader's keypad"
  else if stages = 3 ∧ stage = 0 then "Please enter the current PIN into the reader's keypad"
  else if stage + 2 = stages then "Please enter the new PIN into the reader's keypad"
  else "Please repeat entering the new PIN into the reader's keypad"

def promptText (seen : Inspection) (stage : Nat) : List UInt8 :=
  orText ((givenText seen stage).take 511) (standardText seen.noOfStages stage)

def promptScreen (seen : Inspection) (typed : Typed) : Screen :=
  ⟨cText "Reiner SCT cyberJack", promptText seen typed.stage, stageText typed.stage seen.noOfStages, typed.stars,
    UInt8.ofInt seen.timeOut⟩

/-- The screens behind the keys; none from the first message on that is not answered. -/
def promptScreens (seen : Inspection) : Typed → Bool → List (UInt8 × Exchange) → List (Option Screen)
  | _, _, [] => []
  | typed, answered, (key, made) :: rest =>
      let answered' := answered && (made = .answered || ¬ typed.Asks seen.noOfStages key)
      let typed' := typed.press seen.noOfStages key
      (if answered' then some (promptScreen seen typed') else none) :: promptScreens seen typed' answered' rest

def expectedScreens (pin : PinCommand) : List (Option Screen) :=
  let keys := pin.keys.map fun pressed => (pin.family.callbackKey pressed.1, pressed.2)
  match pin.seen with
  | none => none :: keys.map fun _ => none
  | some seen =>
      let answered := decide (pin.opening = .connected .answered)
      (if answered then some (promptScreen seen ⟨0, 0, 0⟩) else none) :: promptScreens seen ⟨0, 0, 0⟩ answered keys

structure PromptRight (pin : PinCommand) (answer : PinAnswer) : Prop where
  screens : answer.screens = expectedScreens pin
  called : answer.called = if pin.keyCallback then pin.keys.map fun pressed => pin.family.callbackKey pressed.1 else []
  left : answer.left = none

/-! ## One key -/

variable {seen : Inspection} {shown : Shown} {typed : Typed} {window : Window} {key : UInt8}

structure Stages (seen : Inspection) : Prop where
  some : 1 ≤ seen.noOfStages
  few : seen.noOfStages ≤ 3

def textOf (window : Window) (stage : Nat) : List UInt8 :=
  match stage with
  | 0 => window.textStage0
  | 1 => window.textStage1
  | _ => window.textStage2

/-- A window that shows the prompt. -/
structure Prompts (seen : Inspection) (typed : Typed) (window : Window) : Prop where
  socket : window.socket = true
  title : window.title = cText "Reiner SCT cyberJack"
  seconds : window.keyTimeout = UInt8.ofInt seen.timeOut
  stages : window.stages = seen.noOfStages
  text : window.textLabel = promptText seen typed.stage
  label : window.stageLabel = stageText typed.stage seen.noOfStages
  stars : window.entered = typed.stars
  texts : ∀ stage < seen.noOfStages, textOf window stage = promptText seen stage

/-- The driver and the window agree on what has been typed. -/
structure Follows (seen : Inspection) (typed : Typed) (shown : Shown) : Prop where
  few : seen.noOfStages ≤ 3
  socket : shown.dialog.socket = true
  stages : shown.dialog.stages = seen.noOfStages
  stage : shown.dialog.currentStage = typed.stage
  chars : shown.dialog.numChars = typed.carried + typed.digits
  prompts : Prompts seen typed shown.window

theorem screen_of_prompts (prompts : Prompts seen typed window) : window.screen = some (promptScreen seen typed) := by
  rw [Window.screen, if_pos prompts.socket, prompts.title, prompts.seconds, prompts.text, prompts.label, prompts.stars]
  rfl

theorem screen_gone (gone : window.socket = false) : window.screen = none := by
  simp [Window.screen, gone]

theorem setStage_prompts (prompts : Prompts seen typed window) (few : seen.noOfStages ≤ 3) (carried : Nat)
    {stage : Nat} (inside : stage < seen.noOfStages) : Prompts seen ⟨stage, carried, 0⟩ (window.setStage stage) where
  socket := prompts.socket
  title := prompts.title
  seconds := prompts.seconds
  stages := prompts.stages
  text := by
    rw [← prompts.texts stage inside]
    match stage with
    | 0 => rfl
    | 1 => rfl
    | 2 => rfl
    | _ + 3 => omega
  label := by simp [Window.setStage, prompts.stages]
  stars := rfl
  texts := prompts.texts

theorem setCharNum_prompts (prompts : Prompts seen typed window) (dialogId beep : Nat) {typed' : Typed}
    (stage : typed'.stage = typed.stage) :
    Prompts seen typed' (window.handleMessage (.setCharNum dialogId typed'.stars beep)) where
  socket := prompts.socket
  title := prompts.title
  seconds := prompts.seconds
  stages := prompts.stages
  text := by
    rw [stage]
    exact prompts.text
  label := by
    rw [stage]
    exact prompts.label
  stars := rfl
  texts := prompts.texts

variable {made : Exchange}

theorem exchange_answered (socket : window.socket = true) (request : Request) :
    exchange window request .answered =
      (some (window.handleMessage request).lastDialogId, window.handleMessage request) := by
  simp [exchange, socket]

/-- Behind a message that is not answered there is no window. -/
theorem exchange_gone (lost : window.socket = false ∨ made ≠ .answered) (request : Request) :
    (exchange window request made).2.socket = false := by
  cases made with
  | answered =>
      have gone : window.socket = false := by simpa using lost
      simp [exchange, gone]
  | sendFailed => rfl
  | unanswered handled => rfl
  | disconnected handled => rfl

theorem set_stage_gone {stage : Nat} (lost : shown.window.socket = false ∨
    (shown.dialog.socket = true ∧ stage < RSCT_DIALOG_MAX_STAGES) ∧ made ≠ .answered) :
    (rsct_dialog_set_stage shown stage made).2.window.socket = false := by
  rw [rsct_dialog_set_stage]
  split
  · have gone := exchange_gone (lost.imp_right And.right) (.setStage shown.dialog.dialogId stage)
    split
    · rename_i window same
      rwa [same] at gone
    · rename_i _ window same
      rwa [same] at gone
  · rename_i closed
    rcases lost with gone | lost
    · exact gone
    · exact absurd lost.1 closed

theorem set_char_num_gone (lost : shown.window.socket = false ∨ shown.dialog.socket = true ∧ made ≠ .answered)
    (charNum beep : Nat) : (rsct_dialog_set_char_num shown charNum beep made).2.window.socket = false := by
  rw [rsct_dialog_set_char_num]
  split
  · have gone := exchange_gone (lost.imp_right And.right) (.setCharNum shown.dialog.dialogId charNum beep)
    split
    · rename_i window same
      rwa [same] at gone
    · rename_i _ window same
      rwa [same] at gone
  · rename_i closed
    rcases lost with gone | lost
    · exact gone
    · exact absurd lost.1 closed

theorem dialogKey_gone (gone : shown.window.socket = false) (key : UInt8) (made : Exchange) :
    (dialogKey shown key made).window.socket = false := by
  unfold dialogKey
  split
  · exact set_char_num_gone (.inl gone) _ _
  split
  · exact set_char_num_gone (.inl gone) _ _
  split
  · dsimp only
    split
    · exact set_stage_gone (.inl gone)
    · exact gone
  · exact gone

theorem dialogKey_lost (follows : Follows seen typed shown) (asks : typed.Asks seen.noOfStages key)
    (lost : made ≠ .answered) : (dialogKey shown key made).window.socket = false := by
  unfold dialogKey
  split
  · exact set_char_num_gone (.inr ⟨follows.socket, lost⟩) _ _
  rename_i noDigit
  split
  · exact set_char_num_gone (.inr ⟨follows.socket, lost⟩) _ _
  rename_i noCLR
  obtain digit | clr | ok := asks
  · exact absurd digit noDigit
  · exact absurd clr noCLR
  · rw [if_pos ok.1, follows.stages, follows.stage]
    simp only [if_pos ok.2]
    exact set_stage_gone (.inr ⟨⟨follows.socket, Nat.lt_of_lt_of_le ok.2 follows.few⟩, lost⟩)

theorem set_char_num_follows (follows : Follows seen typed shown) (beep : Nat) {typed' : Typed}
    (stage : typed'.stage = typed.stage) (stars : typed'.stars = typed'.carried + typed'.digits) :
    Follows seen typed' (rsct_dialog_set_char_num shown typed'.stars beep .answered).2 := by
  rw [rsct_dialog_set_char_num, if_pos follows.socket, exchange_answered follows.prompts.socket]
  have prompts := setCharNum_prompts follows.prompts shown.dialog.dialogId beep stage
  refine ⟨follows.few, follows.socket, follows.stages, ?_, ?_, prompts⟩
  · rw [stage]
    exact follows.stage
  · exact stars

theorem set_stage_follows (follows : Follows seen typed shown) (inside : typed.stage + 1 < seen.noOfStages) :
    Follows seen ⟨typed.stage + 1, typed.carried + typed.digits, 0⟩
      (rsct_dialog_set_stage shown (typed.stage + 1) .answered).2 := by
  have few : typed.stage + 1 < RSCT_DIALOG_MAX_STAGES := Nat.lt_of_lt_of_le inside follows.few
  rw [rsct_dialog_set_stage, if_pos ⟨follows.socket, few⟩, exchange_answered follows.prompts.socket]
  exact ⟨follows.few, follows.socket, follows.stages, rfl, follows.chars,
    setStage_prompts follows.prompts follows.few _ inside⟩

theorem dialogKey_follows (follows : Follows seen typed shown)
    (answered : made = .answered ∨ ¬ typed.Asks seen.noOfStages key) :
    Follows seen (typed.press seen.noOfStages key) (dialogKey shown key made) := by
  unfold dialogKey Typed.press
  split
  · rename_i digit
    have sent : made = .answered := answered.resolve_right fun quiet => quiet (.inl digit)
    rw [sent, follows.chars]
    exact @set_char_num_follows seen shown typed follows 1 { typed with digits := typed.digits + 1 } rfl rfl
  rename_i noDigit
  split
  · rename_i clr
    have sent : made = .answered := answered.resolve_right fun quiet => quiet (.inr (.inl clr))
    rw [sent]
    exact @set_char_num_follows seen shown typed follows 1 { typed with carried := 0, digits := 0 } rfl rfl
  rename_i noCLR
  by_cases ok : key = RSCT_Key_Ok
  · rw [if_pos ok, follows.stages, follows.stage]
    by_cases inside : typed.stage + 1 < seen.noOfStages
    · have sent : made = .answered := answered.resolve_right fun quiet => quiet (.inr (.inr ⟨ok, inside⟩))
      simp only [if_pos inside, if_pos (And.intro ok inside), sent]
      exact set_stage_follows follows inside
    · simp only [if_neg inside, if_neg fun both : key = RSCT_Key_Ok ∧ _ => inside both.2]
      exact follows
  · rw [if_neg ok, if_neg fun both => ok both.1]
    exact follows

/-! ## All keys -/

variable {family : KeyFamily} {keyCallback : Bool} {keys : List (UInt8 × Exchange)}

def handedKeys (family : KeyFamily) (keys : List (UInt8 × Exchange)) : List (UInt8 × Exchange) :=
  keys.map fun pressed => (family.callbackKey pressed.1, pressed.2)

theorem pressed_called (currentDialog : Option Shown) :
    (pressed family keyCallback currentDialog keys).2.1 =
      if keyCallback then keys.map fun pressed => family.callbackKey pressed.1 else [] := by
  induction keys generalizing currentDialog with
  | nil => simp [pressed]
  | cons head rest ih =>
      obtain ⟨key, made⟩ := head
      cases keyCallback <;> simp [pressed, commonKeyCallback, ih]

theorem pressed_none :
    (pressed family keyCallback none keys).1 = keys.map (fun _ => none) ∧
      (pressed family keyCallback none keys).2.2 = none := by
  induction keys with
  | nil => simp [pressed]
  | cons head rest ih =>
      obtain ⟨key, made⟩ := head
      simp [pressed, commonKeyCallback, ih, screenOf]

/-- A window that is gone does not come back. -/
theorem pressed_gone (gone : shown.window.socket = false) :
    ∃ last, (pressed family keyCallback (some shown) keys).2.2 = some last ∧ last.window.socket = false ∧
      (pressed family keyCallback (some shown) keys).1 = keys.map fun _ => none := by
  induction keys generalizing shown with
  | nil => exact ⟨shown, rfl, gone, rfl⟩
  | cons head rest ih =>
      obtain ⟨key, made⟩ := head
      have still := dialogKey_gone gone (family.callbackKey key) made
      obtain ⟨last, kept, closed, screens⟩ := ih still
      refine ⟨last, kept, closed, ?_⟩
      simp only [pressed, commonKeyCallback, Option.map_some, screenOf, Option.bind_some, screen_gone still,
        screens, List.map_cons]

theorem promptScreens_gone (seen : Inspection) (typed : Typed) (keys : List (UInt8 × Exchange)) :
    promptScreens seen typed false keys = keys.map fun _ => none := by
  induction keys generalizing typed with
  | nil => rfl
  | cons head rest ih =>
      obtain ⟨key, made⟩ := head
      simp [promptScreens, ih]

/-- What closes behind the keys. -/
structure Pressed (seen : Inspection) (typed : Typed) (keys : List (UInt8 × Exchange))
    (made : List (Option Screen) × List UInt8 × Option Shown) : Prop where
  screens : made.1 = promptScreens seen typed true keys
  last : ∃ last, made.2.2 = some last ∧ (last.dialog.socket = true ∨ last.window.socket = false)

theorem pressed_follows (follows : Follows seen typed shown) :
    Pressed seen typed (handedKeys family keys) (pressed family keyCallback (some shown) keys) := by
  induction keys generalizing shown typed with
  | nil => exact ⟨rfl, shown, rfl, .inl follows.socket⟩
  | cons head rest ih =>
      obtain ⟨key, made⟩ := head
      by_cases answered : made = .answered ∨ ¬ typed.Asks seen.noOfStages (family.callbackKey key)
      · have next := dialogKey_follows follows answered
        obtain ⟨screens, last⟩ := ih next
        refine ⟨?_, last⟩
        have goesOn : (true && (decide (made = .answered) ||
            decide ¬ typed.Asks seen.noOfStages (family.callbackKey key))) = true := by
          simpa using answered
        simp only [handedKeys, List.map_cons, promptScreens, goesOn, if_true]
        rw [← screen_of_prompts next.prompts]
        exact congrArg _ screens
      · rw [not_or, not_not] at answered
        have gone := dialogKey_lost follows answered.2 answered.1
        obtain ⟨last, kept, closed, screens⟩ := @pressed_gone _ family keyCallback rest gone
        refine ⟨?_, last, kept, .inr closed⟩
        have stops : (true && (decide (made = .answered) ||
            decide ¬ typed.Asks seen.noOfStages (family.callbackKey key))) = false := by
          simpa using answered
        simp only [handedKeys, List.map_cons, promptScreens, stops, Bool.false_eq_true, if_false,
          promptScreens_gone, List.map_map]
        have first : screenOf (some (dialogKey shown (family.callbackKey key) made)) = none := screen_gone gone
        simp only [pressed, commonKeyCallback, Option.map_some, first, screens]
        rfl

/-! ## The command -/

variable {command : Nat → UInt8} {passes i : Nat} {final : Inspection}

theorem inspect_stages (stages : Stages seen) : Stages (inspect command i seen) := by
  unfold inspect
  split
  · exact ⟨stages.some, stages.few⟩
  · exact ⟨stages.some, stages.few⟩
  · exact ⟨stages.some, stages.few⟩
  · exact ⟨stages.some, stages.few⟩
  · constructor
    · dsimp only
      split
      · split <;> decide
      · decide
    · dsimp only
      split
      · split <;> decide
      · decide
  · exact ⟨stages.some, stages.few⟩

theorem scan_stages (stages : Stages seen) (scanned : scan command passes i seen = some final) : Stages final := by
  induction passes generalizing i seen with
  | zero => contradiction
  | succ passes ih =>
      rw [scan] at scanned
      split at scanned
      · exact ih (inspect_stages stages) scanned
      · cases scanned
        exact stages

theorem seen_stages {pin : PinCommand} (found : pin.seen = some seen) : Stages seen := by
  rw [PinCommand.seen] at found
  split at found
  · exact scan_stages ⟨by decide, by decide⟩ found
  · contradiction

/-- What the window shows of an open dialog. -/
theorem opened_prompts (stages : Stages seen) (cla ins : UInt8) :
    Prompts seen ⟨0, 0, 0⟩ (newWindow.handleMessage (openRequest (rsct_dialog_new [] seen.noOfStages cla ins
      seen.timeOut seen.customDisplayText1 seen.customDisplayText2 seen.customDisplayText3))) := by
  obtain ⟨some, few⟩ := stages
  obtain ⟨text1, text2, text3, timeOut, variablePINLength, noOfStages, inspected, copies⟩ := seen
  dsimp only at some few ⊢
  match noOfStages with
  | 0 => omega
  | 1 =>
      refine ⟨rfl, rfl, rfl, rfl, rfl, rfl, rfl, ?_⟩
      intro stage below
      match stage with
      | 0 => rfl
  | 2 =>
      refine ⟨rfl, rfl, rfl, rfl, rfl, rfl, rfl, ?_⟩
      intro stage below
      match stage with
      | 0 => rfl
      | 1 => rfl
  | 3 =>
      refine ⟨rfl, rfl, rfl, rfl, rfl, rfl, rfl, ?_⟩
      intro stage below
      match stage with
      | 0 => rfl
      | 1 => rfl
      | 2 => rfl
  | _ + 4 => omega

/-- How a command begins: with a dialog that shows the first prompt, or with nothing on the screen. -/
inductive Opened (pin : PinCommand) : Option Shown → Prop where
  | prompts {seen : Inspection} {shown : Shown} (found : pin.seen = some seen)
      (answered : pin.opening = .connected .answered) (follows : Follows seen ⟨0, 0, 0⟩ shown) : Opened pin (some shown)
  | gone {shown : Shown} (lost : pin.opening ≠ .connected .answered) (gone : shown.window.socket = false) :
      Opened pin (some shown)
  | none (lost : pin.seen = none ∨ pin.opening ≠ .connected .answered) : Opened pin none

theorem openedDialog_opened (pin : PinCommand) : Opened pin (openedDialog pin) := by
  unfold openedDialog
  cases found : pin.seen with
  | none => exact .none (.inl found)
  | some seen =>
      have stages := seen_stages found
      cases opening : pin.opening with
      | noServer => exact .none (.inr (by simp [opening]))
      | connected made =>
          cases made with
          | answered =>
              exact .prompts found opening
                ⟨stages.few, rfl, rfl, rfl, rfl, opened_prompts stages (pin.command 0) (pin.command 1)⟩
          | sendFailed => exact .none (.inr (by simp [opening]))
          | unanswered handled => exact .none (.inr (by simp [opening]))
          | disconnected handled => exact .gone (by simp [opening]) rfl

theorem close_gone (open' : shown.dialog.socket = true ∨ shown.window.socket = false) (sent : Bool) :
    (rsct_dialog_close shown sent).window.socket = false := by
  rw [rsct_dialog_close]
  split
  · cases sent <;> rfl
  · rename_i closed
    exact open'.resolve_left closed

/-- Where the opening is not answered, nothing is expected on the screen. -/
theorem expected_none {pin : PinCommand} (lost : pin.seen = none ∨ pin.opening ≠ .connected .answered) :
    expectedScreens pin = none :: pin.keys.map fun _ => none := by
  have same : (handedKeys pin.family pin.keys).map (fun _ => (none : Option Screen)) = pin.keys.map fun _ => none :=
    List.map_map ..
  unfold expectedScreens
  cases found : pin.seen with
  | none => exact congrArg _ same
  | some seen =>
      have stops : decide (pin.opening = .connected .answered) = false := by
        simpa [found] using lost
      simp only [stops, Bool.false_eq_true, if_false, promptScreens_gone]
      exact congrArg _ same

theorem ctDataDialog_right (pin : PinCommand) : PromptRight pin (ctDataDialog none pin).1 := by
  have begins := openedDialog_opened pin
  simp only [ctDataDialog, Option.isNone_none, if_true]
  generalize openedDialog pin = opened at begins
  constructor
  · cases begins with
    | prompts found answered follows =>
        have later := @pressed_follows _ _ _ pin.family pin.keyCallback pin.keys follows
        simp only [expectedScreens, found, answered, decide_true, if_true]
        rw [later.screens, ← screen_of_prompts follows.prompts]
        rfl
    | gone lost gone =>
        obtain ⟨_, _, _, screens⟩ := @pressed_gone _ pin.family pin.keyCallback pin.keys gone
        rw [expected_none (.inr lost), screens]
        exact congrArg (· :: _) (screen_gone gone)
    | none lost =>
        rw [expected_none lost, pressed_none.1]
        rfl
  · exact pressed_called opened
  · cases begins with
    | prompts found answered follows =>
        obtain ⟨last, kept, ends⟩ := (@pressed_follows _ _ _ pin.family pin.keyCallback pin.keys follows).last
        rw [kept]
        exact screen_gone (close_gone ends pin.closing)
    | gone lost gone =>
        obtain ⟨last, kept, closed, _⟩ := @pressed_gone _ pin.family pin.keyCallback pin.keys gone
        rw [kept]
        exact screen_gone (close_gone (.inr closed) pin.closing)
    | none lost =>
        rw [pressed_none.2]
        rfl

/-- Over all commands: while the server answers, the user sees the prompt of the stage with the digits counted as
they are; with the first message that is lost the dialog is gone, and none is left behind a command. -/
theorem dialogs_right (commands : List PinCommand) :
    ∀ entry ∈ history ctDataDialog none commands, PromptRight entry.input entry.answer := by
  have sound (currentDialog : Option Shown) (pin : PinCommand) (none' : currentDialog = none) (_ : True) :
      PromptRight pin (ctDataDialog currentDialog pin).1 ∧ (ctDataDialog currentDialog pin).2 = none := by
    subst none'
    exact ⟨ctDataDialog_right pin, rfl⟩
  exact @history_good _ _ _ ctDataDialog (· = none) (fun _ _ => True)
    (fun entry => PromptRight entry.input entry.answer) sound none rfl commands fun _ _ => trivial

/-- MODIFY VERIFICATION of a PIN with an old one: a digit of the old PIN, OK, and a digit of the new one. -/
def changePin : PinCommand where
  dad := 1
  sad := 2
  lenc := 10
  command index := [0x20, 0x19, 0x00, 0x00, 0x05, 0x52, 0x03, 0x80, 0x05, 0x09].getD index 0
  family := .eca
  keyCallback := true
  opening := .connected .answered
  keys := [(0, .answered), (2, .answered), (0, .answered)]
  closing := true

theorem dialogs_right_change : PromptRight changePin (ctDataDialog none changePin).1 :=
  dialogs_right [changePin] (ctDataDialog.entry none changePin) (.head _)

/-- The digit of the old PIN is shown again with that of the new one. -/
example : (ctDataDialog none changePin).1.screens.map (Option.map Screen.stars) =
    [some 0, some 1, some 0, some 2] := by
  decide

end Cyberjack.Libdialog

import Cyberjack.Foundation.Loop
import Cyberjack.Ecom.T1Block
import Cyberjack.Ecom.BlockCodec
import Cyberjack.Foundation.Buffer
import Cyberjack.Foundation.Streak
import Cyberjack.Foundation.Transfer
import Cyberjack.Ecom.Delivery
import Cyberjack.Ecom.Response
import Cyberjack.Eca.CtData
import Cyberjack.Eca.T0Case4
import Cyberjack.Ecom.KernelReceive
import Cyberjack.Ecom.LibusbReceive
import Cyberjack.Ecom.Recovery
import Cyberjack.Ecom.Transmission
import Cyberjack.Ppa.T1
import Cyberjack.Ppa.T1Delivery
import Cyberjack.Ppa.T1Recovery
import Cyberjack.Ppa.T1Response
import Cyberjack.Eca.CardState
import Cyberjack.Eca.DeviceLength
import Cyberjack.Eca.KeyFile
import Cyberjack.Eca.KeyUpdate
import Cyberjack.Eca.KeyCorrupt
import Cyberjack.Eca.LoadModule
import Cyberjack.Eca.Matching
import Cyberjack.Eca.ReaderFiles
import Cyberjack.Eca.SecurePin
import Cyberjack.Eca.CommandTail
import Cyberjack.Ifd.Channels
import Cyberjack.Ifd.AtrCache
import Cyberjack.Ctapi.Registry
import Cyberjack.Ctapi.Upload
import Cyberjack.Ctapi.ModuleList
import Cyberjack.Ppa.I2c
import Cyberjack.Ppa.MemoryCard
import Cyberjack.Ppa.PinTries
import Cyberjack.Ppa.PinTemplates
import Cyberjack.Eca.SerialFrames
import Cyberjack.Eca.HistoricalBytes
import Cyberjack.Eca.BulkRead
import Cyberjack.Eca.PortFile
import Cyberjack.Eca.ConfigRoundTrip
import Cyberjack.Eca.T0Case2
import Cyberjack.Ppa.T0Response
import Cyberjack.Ppa.T0Endless
import Cyberjack.Ppa.CardResetResponse
import Cyberjack.Eca.SerialWrite
import Cyberjack.Eca.AtrLength
import Cyberjack.Ppa.AtrLength
import Cyberjack.Eca.ContactlessAtr
import Cyberjack.Ppa.FirmwareFile
import Cyberjack.Ppa.FirmwareUpdate
import Cyberjack.Ppa.FirmwareSent
import Cyberjack.Ppa.MessageLimits
import Cyberjack.Eca.ApplicationData
import Cyberjack.Eca.ModuleTable
import Cyberjack.Eca.PromptTexts
import Cyberjack.Eca.AtrAlone
import Cyberjack.Eca.PowerRetry
import Cyberjack.Eca.Pace
import Cyberjack.Ppa.TagSearch
import Cyberjack.Eca.GetData
import Cyberjack.Eca.BulkWrite
import Cyberjack.Libdialog.NetRecv
import Cyberjack.Ctapi.ShowDialog
import Cyberjack.Foundation.Bits
import Cyberjack.Ppa.ProtectionBits
import Cyberjack.Ppa.WireUpdate
import Cyberjack.Ppa.UpdateStatus
import Cyberjack.Ppa.PageChunks
import Cyberjack.Eca.KeyInput
import Cyberjack.Eca.InputBounds
import Cyberjack.Eca.InputDialog
import Cyberjack.Foundation.Refinement
import Cyberjack.Libcyberjack.UploadClient
import Cyberjack.Libcyberjack.UploadSession
import Cyberjack.Libdialog.Framing
import Cyberjack.Libdialog.Prompt
import Cyberjack.Libcyberjack.FirmwareUpdate
import Cyberjack.Libcyberjack.ReaderList
import Cyberjack.Foundation.Heap
import Cyberjack.Eca.ReaderObject
import Cyberjack.Ctapi.ReaderOwner
import Cyberjack.Foundation.ChainedList
import Cyberjack.Foundation.Numerals
import Cyberjack.Ctapi.UsbDevices
import Cyberjack.Ctapi.DeviceNames
import Cyberjack.Ifd.Handler
import Cyberjack.Ifd.StrandedUnit
import Cyberjack.Ppa.CardFiles
import Cyberjack.Ppa.ReaderFiles

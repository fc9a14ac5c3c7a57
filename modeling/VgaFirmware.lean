import VgaFirmware.Text.Hex
import VgaFirmware.Machine.Board
import VgaFirmware.Machine.Recorder
import VgaFirmware.Machine.Script
import VgaFirmware.Service.Request
import VgaFirmware.Proofs.BaseIndependence
import VgaFirmware.Proofs.CellAgreement
import VgaFirmware.Proofs.Idempotence
import VgaFirmware.Proofs.Nesting
import VgaFirmware.Proofs.PageIndependence
import VgaFirmware.Proofs.RecordedCalls
import VgaFirmware.Proofs.Refusals
import VgaFirmware.Proofs.StoredCursor
import VgaFirmware.Proofs.Teletype
import VgaFirmware.Proofs.ViewIndependence
import VgaFirmware.Proofs.Canonical
import VgaFirmware.Proofs.FlatMemory
import VgaFirmware.Proofs.Scrolling
import VgaFirmware.Proofs.StringCursor
import VgaFirmware.Proofs.Checked.Requests
import VgaFirmware.Proofs.WrittenString
import VgaFirmware.Proofs.ViewAgreement
import VgaFirmware.Proofs.RepeatedScrolls
import VgaFirmware.Proofs.ColourWrites
import VgaFirmware.Proofs.LatchedCopy
import VgaFirmware.Proofs.ColourStreams

import LineDebugger.Connection.Machine
import LineDebugger.Debuggee.Remote
import LineDebugger.Debuggee.Scripted
import LineDebugger.Json.Record
import LineDebugger.Main
import LineDebugger.Session.Run
import LineDebugger.Proofs.Contract
import LineDebugger.Proofs.Session.Notice
import LineDebugger.Proofs.Session.Regime
import LineDebugger.Proofs.Session.Interpreter
import LineDebugger.Proofs.Session.Bookkeeping
import LineDebugger.Proofs.Session.Run
import LineDebugger.Proofs.Session.Ending
import LineDebugger.Proofs.Session.Conclusion
import LineDebugger.Proofs.Session.Resumption
import LineDebugger.Proofs.Session.BreakpointTable
import LineDebugger.Proofs.Session.Ledger
import LineDebugger.Proofs.Session.Consultation
import LineDebugger.Proofs.Session.Handover
import LineDebugger.Proofs.Session.Orientation
import LineDebugger.Proofs.Session.Attention
import LineDebugger.Proofs.Wire.Packet
import LineDebugger.Proofs.Connection.Run
import LineDebugger.Proofs.Connection.Chunks
import LineDebugger.Proofs.Connection.Commutation
import LineDebugger.Proofs.Connection.History
import LineDebugger.Proofs.Connection.Delivery
import LineDebugger.Proofs.Connection.Routing
import LineDebugger.Proofs.Debuggee.Composition
import LineDebugger.Proofs.Wire.Framing
import LineDebugger.Proofs.Debuggee.Loss
import LineDebugger.Proofs.Debuggee.Course
import LineDebugger.Proofs.Connection.Client
import LineDebugger.Proofs.Debuggee.Errand
import LineDebugger.Proofs.Debuggee.Transparency
import LineDebugger.Proofs.Text.Utf8
import LineDebugger.Proofs.Wire.Reader
import LineDebugger.Proofs.Wire.EventRequest
import LineDebugger.Proofs.Wire.Locality
import LineDebugger.Proofs.Wire.Value
import LineDebugger.Proofs.Debuggee.RequestTable
import LineDebugger.Proofs.Debuggee.Registry
import LineDebugger.Proofs.Wire.CallDecoder
import LineDebugger.Proofs.Wire.EventSet
import LineDebugger.Proofs.Connection.Conversation
import LineDebugger.Proofs.Debuggee.Reporting
import LineDebugger.Proofs.Wire.Layout
import LineDebugger.Proofs.Wire.Listing
import LineDebugger.Proofs.Connection.Opening
import LineDebugger.Proofs.Session.LiveRequests
import LineDebugger.Proofs.Session.Failure
import LineDebugger.Proofs.Session.Questions
import LineDebugger.Proofs.Session.LiveSteps
import LineDebugger.Proofs.Session.CarryOut
import LineDebugger.Proofs.Json.RoundTrip
import LineDebugger.Proofs.Session.Lineless
import LineDebugger.Proofs.Session.ReadOnly
import LineDebugger.Proofs.Session.Printing
import LineDebugger.Proofs.Session.Hearing
import LineDebugger.Proofs.Session.Display
import LineDebugger.Proofs.Session.Editing
import LineDebugger.Proofs.Session.Registration
import LineDebugger.Proofs.Session.Retirement
import LineDebugger.Proofs.Session.Numbers
import LineDebugger.Proofs.Session.Succession
import LineDebugger.Proofs.Debuggee.Locals
import LineDebugger.Proofs.Debuggee.Fixed
import LineDebugger.Proofs.Debuggee.LineResolution
import LineDebugger.Proofs.Wire.LineTable
import LineDebugger.Proofs.Debuggee.Outlook
import LineDebugger.Proofs.Debuggee.LineShown
import LineDebugger.Proofs.Debuggee.Frames
import LineDebugger.Proofs.Debuggee.Elements
import LineDebugger.Proofs.Debuggee.Inheritance
import LineDebugger.Proofs.CommandLine.Endpoint
import LineDebugger.Proofs.Wire.Extent
import LineDebugger.Proofs.Json.Value
import LineDebugger.Proofs.Debuggee.ArrayType
import LineDebugger.Proofs.CommandLine.Separation
import LineDebugger.Proofs.Session.LineAnswers
import LineDebugger.Proofs.Wire.Reservation

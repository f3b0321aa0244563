import GpuInventory.Main
import GpuInventory.Session
import GpuInventory.Proofs.Engine.Containment
import GpuInventory.Proofs.Engine.Usable
import GpuInventory.Proofs.Session.CircuitBreaker
import GpuInventory.Proofs.Session.Settings
import GpuInventory.Proofs.Session.UsableDevices
import GpuInventory.Proofs.Session.Processes
import GpuInventory.Proofs.AllowList.Overlong
import GpuInventory.Proofs.Http.Body
import GpuInventory.Proofs.Session.Outcomes
import GpuInventory.Proofs.Session.Responses
import GpuInventory.Proofs.Metrics.Durations
import GpuInventory.Proofs.Monitor.Observation
import GpuInventory.Proofs.Monitor.Recording
import GpuInventory.Proofs.Session.Accounting
import GpuInventory.Proofs.Session.Renewal
import GpuInventory.Proofs.Session.Status
import GpuInventory.Proofs.Decimal.Characters
import GpuInventory.Proofs.Metrics.Export
import GpuInventory.Proofs.Monitor.Usable
import GpuInventory.Proofs.Session.Questions
import GpuInventory.Proofs.AllowList.Blame
import GpuInventory.Proofs.Monitor.Spans
import GpuInventory.Proofs.Session.ListFaults
import GpuInventory.Proofs.Session.Spans
import GpuInventory.Proofs.Settings.Members
import GpuInventory.Proofs.Text.LowerCase
import GpuInventory.Proofs.Command.Result
import GpuInventory.Proofs.Locator.Location
import GpuInventory.Proofs.Service.Processes
import GpuInventory.Proofs.Report.Acceptance
import GpuInventory.Proofs.Report.Unknown
import GpuInventory.Proofs.Text.Quoted
import GpuInventory.Proofs.AllowList.Message
import GpuInventory.Proofs.Xml.Continuation.Markup
import GpuInventory.Proofs.Xml.Continuation.Prolog
import GpuInventory.Proofs.Xml.Continuation.Volume
import GpuInventory.Proofs.Xml.Continuation.Content
import GpuInventory.Proofs.Xml.Continuation.Document
import GpuInventory.Proofs.Report.Truncation
import GpuInventory.Proofs.Xml.Plain
import GpuInventory.Proofs.Decimal.Rounding
import GpuInventory.Proofs.Decimal.Written
import GpuInventory.Proofs.Decimal.Overflow
import GpuInventory.Proofs.Report.Readings

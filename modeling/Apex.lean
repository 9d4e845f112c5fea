import Apex.Proxy.Retirement
import Apex.Control.Rebuild
import Apex.Control.Acceptance
import Apex.Proxy.Immutability
import Apex.Fanout.Bookkeeping
import Apex.Journal.Fencing
import Apex.Runtime.Hold
import Apex.Proxy.Reconciler
import Apex.Auth.Verifier
import Apex.Sdk.Observer
import Apex.Outbox.Recovering
import Apex.Outbox.RecordSize
import Apex.Browser.SessionRuns
import Apex.Control.SameParameters
import Apex.Outbox.Backends
import Apex.Ingest.Gateway
import Apex.Inbox.Failures
import Apex.Inbox.Deliveries
import Apex.Inbox.Listing
import Apex.Outbox.Cycles
import Apex.Control.Bulk
import Apex.Agent.Record
import Apex.Gateway.GrantRuns
import Apex.Findings.Acting
import Apex.Findings.Failures
import Apex.Findings.Fingerprints
import Apex.Browser.LoginAdmission
import Apex.Telemetry.Clock
import Apex.Outbox.Representation

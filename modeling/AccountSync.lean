import AccountSync.Account.State
import AccountSync.Account.Wire
import AccountSync.Attempt
import AccountSync.Attempt.Question
import AccountSync.Attempt.Task
import AccountSync.Attempt.World
import AccountSync.Calendar
import AccountSync.Channel
import AccountSync.Config
import AccountSync.Config.File
import AccountSync.Curve.Basic
import AccountSync.Curve.Signature
import AccountSync.Dialogue
import AccountSync.Encoding.Base64
import AccountSync.Encoding.Hex
import AccountSync.Error
import AccountSync.File
import AccountSync.File.Disk
import AccountSync.Hash.Hmac
import AccountSync.Hash.Sha256
import AccountSync.Hash.Sha512
import AccountSync.Http.Date
import AccountSync.Http.Header
import AccountSync.Http.Message
import AccountSync.Http.Signal
import AccountSync.Http.Status
import AccountSync.Identity.Assertion
import AccountSync.Identity.Error
import AccountSync.Identity.KeyPair
import AccountSync.Identity.Keys
import AccountSync.Identity.RequestSigner
import AccountSync.Identity.SignedToken
import AccountSync.Instant
import AccountSync.Json.Basic
import AccountSync.Json.Printer
import AccountSync.Json.Real
import AccountSync.Json.Shape
import AccountSync.Json.Token
import AccountSync.Json.Tree
import AccountSync.Key32
import AccountSync.Latch
import AccountSync.Ledger
import AccountSync.Ledger.State
import AccountSync.Login
import AccountSync.Notice
import AccountSync.Outcome
import AccountSync.Provider.Client
import AccountSync.Provider.Messages
import AccountSync.Provider.Request
import AccountSync.Schedule
import AccountSync.Storage.Engine
import AccountSync.Storage.Session
import AccountSync.Store.AccountFile
import AccountSync.Store.Basic
import AccountSync.Store.JsonFile
import AccountSync.Store.Memory
import AccountSync.Text.Blank
import AccountSync.Text.Composed
import AccountSync.Text.Composed.Table
import AccountSync.Text.Decimal
import AccountSync.Text.Direction
import AccountSync.Text.Joining
import AccountSync.Text.LetterCase
import AccountSync.Text.LetterCase.Table
import AccountSync.Text.Mark
import AccountSync.Text.Mask
import AccountSync.Text.Printable
import AccountSync.Text.Quoted
import AccountSync.Text.Rows
import AccountSync.Text.Split
import AccountSync.Text.Utf8
import AccountSync.TokenServer.Client
import AccountSync.TokenServer.Messages
import AccountSync.Url.Address
import AccountSync.Url.Basic
import AccountSync.Url.Domain
import AccountSync.Url.Domain.Label
import AccountSync.Url.Domain.Mapping
import AccountSync.Url.Domain.Table
import AccountSync.Url.Parser
import AccountSync.Url.Percent
import AccountSync.Url.Punycode
import AccountSync.Verifier
import AccountSync.Proofs.Dialogue.Course
import AccountSync.Proofs.Dialogue.Runs
import AccountSync.Proofs.Login.Step
import AccountSync.Proofs.Login.Walk
import AccountSync.Proofs.Attempt.Parts
import AccountSync.Proofs.Attempt.Stages
import AccountSync.Proofs.Login.Certificate
import AccountSync.Proofs.Login.Table
import AccountSync.Proofs.Login.Custody
import AccountSync.Proofs.Attempt.Custody
import AccountSync.Proofs.Attempt.Backing
import AccountSync.Proofs.Ledger.Deadline
import AccountSync.Proofs.Storage.Session
import AccountSync.Proofs.Attempt.Spacing
import AccountSync.Proofs.Dialogue.Order
import AccountSync.Proofs.Login.Failure
import AccountSync.Proofs.Attempt.Arrival
import AccountSync.Proofs.Attempt.Saving
import AccountSync.Proofs.Attempt.Verification
import AccountSync.Proofs.Ledger.Records
import AccountSync.Proofs.Attempt.Records
import AccountSync.Proofs.Attempt.Handoff
import AccountSync.Proofs.Ledger.Standing
import AccountSync.Proofs.Attempt.Standing
import AccountSync.Proofs.Dialogue.Upto
import AccountSync.Proofs.Attempt.Diagnosis
import AccountSync.Proofs.Attempt.Story
import AccountSync.Proofs.Attempt.Agreement
import AccountSync.Proofs.Encoding.Base64
import AccountSync.Proofs.Identity.Acceptance
import AccountSync.Proofs.Ledger.Chronicle
import AccountSync.Proofs.Json.Words
import AccountSync.Proofs.Json.Reading
import AccountSync.Proofs.Json.Record
import AccountSync.Proofs.Identity.Issuance
import AccountSync.Proofs.Store.Persistence
import AccountSync.Proofs.Store.Refinement
import AccountSync.Proofs.Ledger.Restart
import AccountSync.Proofs.Account.Reading
import AccountSync.Proofs.Account.Keeping
import AccountSync.Proofs.Account.Assertion
import AccountSync.Proofs.Identity.Window
import AccountSync.Proofs.Store.Failure
import AccountSync.Proofs.Ledger.Failure
import AccountSync.Proofs.Attempt.Exchange
import AccountSync.Proofs.Ledger.Atomicity
import AccountSync.Proofs.Attempt.Gates
import AccountSync.Proofs.Attempt.Progress
import AccountSync.Proofs.Encoding.Hex
import AccountSync.Proofs.Login.Stopping
import AccountSync.Proofs.Login.Provenance
import AccountSync.Proofs.Ledger.Skew
import AccountSync.Proofs.Storage.Reports
import AccountSync.Proofs.Http.Seconds
import AccountSync.Proofs.Http.Backoff
import AccountSync.Proofs.Attempt.Response
import AccountSync.Proofs.Storage.Dates
import AccountSync.Proofs.Attempt.Dates
import AccountSync.Proofs.Calendar
import AccountSync.Proofs.Http.Date
import AccountSync.Proofs.TokenServer.Token
import AccountSync.Proofs.Attempt.Endpoint
import AccountSync.Proofs.Text.LetterCase
import AccountSync.Proofs.Identity.RequestSigner
import AccountSync.Proofs.Identity.Descriptor
import AccountSync.Proofs.Config.Loading
import AccountSync.Proofs.Config.Validation
import AccountSync.Proofs.Attempt.SignIn
import AccountSync.Proofs.Latch

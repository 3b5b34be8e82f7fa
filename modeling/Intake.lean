import Intake.Contest
import Intake.FileSystem.Layout
import Intake.FormData.Writing
import Intake.Http.Service
import Intake.Main
import Intake.Proofs.ByteSize.Reading
import Intake.Proofs.ByteSize.Rounding
import Intake.Proofs.Bytes.Cutting
import Intake.Proofs.Config.Layers
import Intake.Proofs.Config.Naming
import Intake.Proofs.Config.Ordering
import Intake.Proofs.Config.Paths
import Intake.Proofs.Config.Records
import Intake.Proofs.Contest.Linearization
import Intake.Proofs.Contest.Progress
import Intake.Proofs.FilePath.Descent
import Intake.Proofs.FilePath.Joining
import Intake.Proofs.FilePath.Parts
import Intake.Proofs.FilePath.Resolution
import Intake.Proofs.FileSystem.Contents
import Intake.Proofs.FileSystem.Creation
import Intake.Proofs.FileSystem.Mirror
import Intake.Proofs.FileSystem.Standing
import Intake.Proofs.FileSystem.Walk
import Intake.Proofs.FormData.Announcement
import Intake.Proofs.FormData.Attributes
import Intake.Proofs.FormData.Ending
import Intake.Proofs.FormData.Framing
import Intake.Proofs.FormData.Heads
import Intake.Proofs.FormData.Reading
import Intake.Proofs.FormData.RoundTrip
import Intake.Proofs.FormData.Truncation
import Intake.Proofs.Http.Ceiling
import Intake.Proofs.Http.Exchanges
import Intake.Proofs.Http.Prediction
import Intake.Proofs.Http.Reservation
import Intake.Proofs.Http.Secrecy
import Intake.Proofs.Http.Targets
import Intake.Proofs.Save.Dropping
import Intake.Proofs.Save.Events
import Intake.Proofs.Save.Exclusive
import Intake.Proofs.Save.Outcome
import Intake.Proofs.Session.Accounting
import Intake.Proofs.Text.Numeral
import Intake.Proofs.Text.Utf8
import Intake.Proofs.Upload.Arrival
import Intake.Proofs.Upload.Copying
import Intake.Proofs.Upload.Declaration
import Intake.Proofs.Upload.Endings
import Intake.Proofs.Upload.Events
import Intake.Proofs.Upload.Failures
import Intake.Proofs.Upload.LengthHeader
import Intake.Proofs.Upload.Loosening
import Intake.Proofs.Upload.Messages
import Intake.Proofs.Upload.Mirroring
import Intake.Proofs.Upload.Receipt
import Intake.Proofs.Upload.Saving
import Intake.Session
import Intake.Proofs.Contest.Rivals

import SqlCheck.Main
import SqlCheck.Session
import SqlCheck.Proofs.Jobs
import SqlCheck.Proofs.Documents
import SqlCheck.Proofs.Lines
import SqlCheck.Proofs.Places
import SqlCheck.Proofs.Colours
import SqlCheck.Proofs.Walks
import SqlCheck.Proofs.Expansion
import SqlCheck.Proofs.Requests
import SqlCheck.Proofs.ExitCode
import SqlCheck.Proofs.Shapes
import SqlCheck.Proofs.Truncation
import SqlCheck.Proofs.Sessions
import SqlCheck.Proofs.Phases
import SqlCheck.Proofs.Existence
import SqlCheck.Proofs.ReportLines
import SqlCheck.Proofs.EditorReports
import SqlCheck.Proofs.Independence
import SqlCheck.Proofs.Printouts
import SqlCheck.Proofs.Agreement
import SqlCheck.Proofs.Separation
import SqlCheck.Proofs.Positions
import SqlCheck.Proofs.Offsets
import SqlCheck.Proofs.Questions
import SqlCheck.Proofs.Shades
import SqlCheck.Proofs.Tokens
import SqlCheck.Proofs.Guards
import SqlCheck.Proofs.Painting
import SqlCheck.Proofs.Listings
import SqlCheck.Proofs.Quoting
import SqlCheck.Proofs.Preferences
import SqlCheck.Proofs.Words
import SqlCheck.Proofs.Visible

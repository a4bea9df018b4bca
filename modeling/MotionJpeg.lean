import MotionJpeg.Main
import MotionJpeg.Server.Tick
import MotionJpeg.Quoted
import MotionJpeg.Proofs.Session.Framing
import MotionJpeg.Proofs.Session.KeepAlive
import MotionJpeg.Proofs.Session.Noninterference
import MotionJpeg.Proofs.Stream.Integrity
import MotionJpeg.Proofs.Answer.ContentLength
import MotionJpeg.Proofs.Answer.Exactness
import MotionJpeg.Proofs.Frame.Window
import MotionJpeg.Proofs.Files.Resolution
import MotionJpeg.Proofs.Router.StaticFiles
import MotionJpeg.Proofs.Files.Agreement
import MotionJpeg.Proofs.Router.PublicFiles
import MotionJpeg.Proofs.Session.LifeCycle
import MotionJpeg.Proofs.Session.Number
import MotionJpeg.Proofs.Session.Reuse
import MotionJpeg.Proofs.Session.Counters
import MotionJpeg.Proofs.Server.Restriction
import MotionJpeg.Proofs.Server.Isolation
import MotionJpeg.Proofs.Session.Place
import MotionJpeg.Proofs.Session.Audience
import MotionJpeg.Proofs.Session.Readiness
import MotionJpeg.Proofs.Bytes.Text
import MotionJpeg.Proofs.Http.Lines
import MotionJpeg.Proofs.Http.HeaderValue
import MotionJpeg.Proofs.Http.RoundTrip
import MotionJpeg.Proofs.Bytes.Base64
import MotionJpeg.Proofs.Router.Credentials
import MotionJpeg.Proofs.Server.Captures
import MotionJpeg.Proofs.Server.Words
import MotionJpeg.Proofs.Server.Table
import MotionJpeg.Proofs.Http.Folding
import MotionJpeg.Proofs.Http.RequestLines
import MotionJpeg.Proofs.Router.Acceptance
import MotionJpeg.Proofs.Http.Query
import MotionJpeg.Proofs.Session.Cooperation
import MotionJpeg.Proofs.Stream.Backlog
import MotionJpeg.Proofs.Session.Draining
import MotionJpeg.Proofs.Capture.ImageSize
import MotionJpeg.Proofs.Router.SourceIndex
import MotionJpeg.Proofs.Http.Responses
import MotionJpeg.Proofs.Capture.Newest
import MotionJpeg.Proofs.Session.HeadRoom
import MotionJpeg.Proofs.Options.CommandLine
import MotionJpeg.Proofs.Config.Validation
import MotionJpeg.Proofs.Capture.ImageLoop
import MotionJpeg.Proofs.Router.Places

import FlagBoard.Command.Run
import FlagBoard.Feed.Live
import FlagBoard.Html.Piece
import FlagBoard.Main
import FlagBoard.Markdown.Autolink
import FlagBoard.Markdown.BlockReader
import FlagBoard.Markdown.Element
import FlagBoard.Markdown.Emphasis
import FlagBoard.Markdown.InlineReader
import FlagBoard.Markdown.Page
import FlagBoard.Page.ChallengePage
import FlagBoard.Page.Mount
import FlagBoard.Proofs.Command.Download
import FlagBoard.Proofs.Command.Following
import FlagBoard.Proofs.Command.Verdicts
import FlagBoard.Proofs.Feed.Damage
import FlagBoard.Proofs.Feed.Envelopes
import FlagBoard.Proofs.Feed.FirstChange
import FlagBoard.Proofs.Feed.Gaps
import FlagBoard.Proofs.Feed.Grouping
import FlagBoard.Proofs.Feed.Hosts
import FlagBoard.Proofs.Feed.NewerKinds
import FlagBoard.Proofs.Feed.Notifying
import FlagBoard.Proofs.Feed.Origin
import FlagBoard.Proofs.Feed.Quarantine
import FlagBoard.Proofs.Feed.Refusal
import FlagBoard.Proofs.Feed.RoundTrip
import FlagBoard.Proofs.Feed.SolvedRatio
import FlagBoard.Proofs.Feed.TableLines
import FlagBoard.Proofs.Http.Routes
import FlagBoard.Proofs.Http.Session
import FlagBoard.Proofs.Http.UserText
import FlagBoard.Proofs.Http.Verdict
import FlagBoard.Proofs.Json.Magnitude
import FlagBoard.Proofs.Page.Cards
import FlagBoard.Proofs.Page.OwnTeam
import FlagBoard.Proofs.Page.Seed
import FlagBoard.Proofs.Page.Timestamps
import FlagBoard.Proofs.Submission.Contract
import FlagBoard.Proofs.Submission.LastVerdict
import FlagBoard.Proofs.Submission.Reservation
import FlagBoard.Proofs.Submission.Turns
import FlagBoard.Proofs.Team.MenuHistory
import FlagBoard.Proofs.Team.Refreshing
import FlagBoard.Proofs.Team.SlotFiles
import FlagBoard.Submission.Detached

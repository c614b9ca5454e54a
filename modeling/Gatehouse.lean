import Gatehouse.Config.Arguments
import Gatehouse.Config.Environment
import Gatehouse.Config.ServerConfig
import Gatehouse.Config.Setting
import Gatehouse.Deadline
import Gatehouse.Event
import Gatehouse.Grpc.Status
import Gatehouse.Guard
import Gatehouse.Guard.Race
import Gatehouse.Host
import Gatehouse.Http.Message
import Gatehouse.Http.StatusCode
import Gatehouse.Http.Uri
import Gatehouse.Log.Filter
import Gatehouse.Log.Logger
import Gatehouse.Main
import Gatehouse.Outcome
import Gatehouse.Pipeline.Call
import Gatehouse.Pipeline.Layer
import Gatehouse.Pipeline.Moment
import Gatehouse.Pipeline.Run
import Gatehouse.Protocol
import Gatehouse.RequestId
import Gatehouse.Server.Basic
import Gatehouse.Server.Health
import Gatehouse.Server.Lifecycle
import Gatehouse.Server.Router
import Gatehouse.Simulation
import Gatehouse.SocketAddress
import Gatehouse.Text.Base64
import Gatehouse.Text.CharClass
import Gatehouse.Text.Decimal
import Gatehouse.Text.Fields
import Gatehouse.Text.Hex
import Gatehouse.Text.JsonString
import Gatehouse.Text.Percent
import Gatehouse.Text.Plain
import Gatehouse.Text.Quoted
import Gatehouse.Text.Utf8
import Gatehouse.Time
import Gatehouse.Proofs.Effects
import Gatehouse.Proofs.HeaderText
import Gatehouse.Proofs.Pipeline
import Gatehouse.Proofs.Race
import Gatehouse.Proofs.Nest
import Gatehouse.Proofs.NestedDeadlines
import Gatehouse.Proofs.NestRace
import Gatehouse.Proofs.ClockRace
import Gatehouse.Proofs.AssignedIds
import Gatehouse.Proofs.LearnedIds
import Gatehouse.Proofs.NestedIds
import Gatehouse.Proofs.Crashes
import Gatehouse.Proofs.GrpcOutcome
import Gatehouse.Proofs.Lifecycle
import Gatehouse.Proofs.Router
import Gatehouse.Proofs.Spans
import Gatehouse.Proofs.Addresses
import Gatehouse.Proofs.Configuration
import Gatehouse.Proofs.Utf8
import Gatehouse.Proofs.Base64
import Gatehouse.Proofs.DerivedDeadlines
import Gatehouse.Proofs.StatusHeaders
import Gatehouse.Proofs.Classification
import Gatehouse.Proofs.RequestLine
import Gatehouse.Proofs.AccessEvents
import Gatehouse.Proofs.ClockRange
import Gatehouse.Proofs.Limits
import Gatehouse.Proofs.JsonStrings
import Gatehouse.Proofs.Reading
import Gatehouse.Proofs.Filters
import Gatehouse.Proofs.Startup
import Gatehouse.Proofs.HeaderCase

import Librtsp.CString
import Librtsp.Header
import Librtsp.HeaderWrite
import Librtsp.HeaderRead
import Librtsp.TokenSafety
import Librtsp.Message
import Librtsp.FramingBounds
import Librtsp.HeaderText
import Librtsp.Reassembly
import Librtsp.RecordList
import Librtsp.Execution
import Librtsp.Url
import Librtsp.ServerStore
import Librtsp.ServerReply
import Librtsp.Server
import Librtsp.ServerTable
import Librtsp.ServerAnswer
import Librtsp.ServerChange
import Librtsp.ServerReplies
import Librtsp.ServerHandlers
import Librtsp.ServerSteps
import Librtsp.ServerConsistency
import Librtsp.ServerOwnership
import Librtsp.ServerKeys
import Librtsp.PendingReferences
import Librtsp.BusyFlag
import Librtsp.TeardownAtomicity
import Librtsp.Tokens
import Librtsp.FieldLines
import Librtsp.UnknownFields
import Librtsp.FieldOrder
import Librtsp.Numerals
import Librtsp.AuthorizationText
import Librtsp.UrlText
import Librtsp.UrlCredentials
import Librtsp.UrlAnonymize
import Librtsp.UrlGrammar
import Librtsp.SessionTimeouts
import Librtsp.BadMessage
import Librtsp.ClientStore
import Librtsp.ClientAuth
import Librtsp.ClientCalls
import Librtsp.Client
import Librtsp.ClientOutcome
import Librtsp.RequestUris
import Librtsp.ClientChange
import Librtsp.ClientSteps
import Librtsp.ClientTasks
import Librtsp.ClientFailures
import Librtsp.ClientReconnect
import Librtsp.FailedSetup
import Librtsp.SessionIds
import Librtsp.AbsentFields
import Librtsp.ChannelSearch
import Librtsp.TeardownSelection
import Librtsp.EmptySessions
import Librtsp.StoreCounters
import Librtsp.RequestAnswers
import Librtsp.HeaderLines
import Librtsp.UrlWrapper
import Librtsp.ResponseMatching
import Librtsp.UriCredentials
import Librtsp.ListEntries
import Librtsp.SlotLists
import Librtsp.RtpInfoText
import Librtsp.TransportText
import Librtsp.NumericParams
import Librtsp.RangeText
import Librtsp.RangeRoundTrip
import Librtsp.Base64Text
import Librtsp.Base64Codec
import Librtsp.DigestFormula
import Librtsp.PatternSearch
import Librtsp.HeaderEnd
import Librtsp.DigestLimits
import Librtsp.UriResolution
import Librtsp.LateReplies
import Librtsp.HeaderFields
import Librtsp.RequestRoundTrip
import Librtsp.ResponseRoundTrip
import Librtsp.MessageStream
import Librtsp.Trace
import Librtsp.ResponseOrigin
import Librtsp.ResponseCount
import Librtsp.ClientReports
import Librtsp.ConversationOrder

import MysqlAsio.AssertingHandshake
import MysqlAsio.AssertingMessages
import MysqlAsio.AsyncCalls
import MysqlAsio.AsyncChannel
import MysqlAsio.AsyncExecute
import MysqlAsio.AsyncFetch
import MysqlAsio.AsyncHandshake
import MysqlAsio.Auth
import MysqlAsio.AuthServers
import MysqlAsio.BinaryDeserialization
import MysqlAsio.BinaryRoundTrip
import MysqlAsio.BinaryRows
import MysqlAsio.BinarySerialization
import MysqlAsio.BufferedRead
import MysqlAsio.Calls
import MysqlAsio.Challenges
import MysqlAsio.Channels
import MysqlAsio.Cleartext
import MysqlAsio.ClientMessages
import MysqlAsio.ColumnCounts
import MysqlAsio.CommandServers
import MysqlAsio.CommonMessages
import MysqlAsio.ConnectedSessions
import MysqlAsio.Connection
import MysqlAsio.Dialogue
import MysqlAsio.ErrPackets
import MysqlAsio.ErrPhases
import MysqlAsio.Errors
import MysqlAsio.ExecuteGeneric
import MysqlAsio.FetchedMessages
import MysqlAsio.Fetching
import MysqlAsio.FieldTypes
import MysqlAsio.FractionProducts
import MysqlAsio.Framing
import MysqlAsio.Greetings
import MysqlAsio.Handshake
import MysqlAsio.HandshakeLogs
import MysqlAsio.HandshakeMessages
import MysqlAsio.HandshakeProcessor
import MysqlAsio.IgnoredCaps
import MysqlAsio.InfoOwnership
import MysqlAsio.Lib.Assertions
import MysqlAsio.Lib.Buffers
import MysqlAsio.Lib.Civil
import MysqlAsio.Lib.Coroutines
import MysqlAsio.Lib.Decimal
import MysqlAsio.Lib.Decoding
import MysqlAsio.Lib.Floats
import MysqlAsio.Lib.LittleEndian
import MysqlAsio.Lib.Machines
import MysqlAsio.Lib.Programs
import MysqlAsio.Lib.Spans
import MysqlAsio.Lib.Views
import MysqlAsio.Lib.Writers
import MysqlAsio.Lifecycle
import MysqlAsio.LiveHandshake
import MysqlAsio.Lives
import MysqlAsio.NullBitmap
import MysqlAsio.NullBitmapRuns
import MysqlAsio.Operations
import MysqlAsio.ParamCounts
import MysqlAsio.PreparedStatementMessages
import MysqlAsio.ReadRow
import MysqlAsio.Receiving
import MysqlAsio.Reconnect
import MysqlAsio.ResponseExceptions
import MysqlAsio.ResultMessages
import MysqlAsio.Resultset
import MysqlAsio.RowAgreement
import MysqlAsio.RowEncodings
import MysqlAsio.RowViews
import MysqlAsio.Scanning
import MysqlAsio.Scrambles
import MysqlAsio.Serialization
import MysqlAsio.Server
import MysqlAsio.ServerRows
import MysqlAsio.Sessions
import MysqlAsio.StatementExecution
import MysqlAsio.Streams
import MysqlAsio.Temporal
import MysqlAsio.TemporalAgreement
import MysqlAsio.TemporalLengths
import MysqlAsio.TemporalRanges
import MysqlAsio.TextDeserialization
import MysqlAsio.TextForms
import MysqlAsio.TextReadings
import MysqlAsio.TextRows
import MysqlAsio.TimePrinting
import MysqlAsio.TlsPolicy
import MysqlAsio.ValueConversions
import MysqlAsio.Values
import MysqlAsio.WireTypes

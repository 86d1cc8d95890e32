import Candlestick.Bus.Consumer
import Candlestick.Candle.Message
import Candlestick.Double.Arithmetic
import Candlestick.Double.Bits
import Candlestick.Double.Text
import Candlestick.History.Query
import Candlestick.Http.Route
import Candlestick.Interval
import Candlestick.Json.Reader
import Candlestick.Json.Writer
import Candlestick.Main
import Candlestick.Numeral
import Candlestick.Proofs.Engine.Conservation
import Candlestick.Proofs.Engine.InOrder
import Candlestick.Service.Startup
import Candlestick.Settings.Message
import Candlestick.Settings.Override
import Candlestick.Sweeper
import Candlestick.Text.Alphanumeric
import Candlestick.Text.Blank
import Candlestick.Text.Digit
import Candlestick.Text.Printable
import Candlestick.Text.Uppercase
import Candlestick.Text.Utf8
import Candlestick.Tick.Message
import Candlestick.Walk
import Candlestick.Yaml.Document.Reader
import Candlestick.Yaml.Document.Value
import Candlestick.Yaml.Scalar.Value
import Candlestick.Proofs.Aggregator.Due
import Candlestick.Proofs.Engine.Interruption
import Candlestick.Proofs.Engine.Retry
import Candlestick.Proofs.Engine.Acceptance
import Candlestick.Proofs.Sweeper.Drain
import Candlestick.Proofs.Candle.RollUp
import Candlestick.Proofs.Engine.Timeframes
import Candlestick.Proofs.Engine.Handover
import Candlestick.Proofs.Engine.Validity
import Candlestick.Proofs.Text.Uppercase
import Candlestick.Proofs.Symbol
import Candlestick.Proofs.Text.Utf8
import Candlestick.Proofs.Double.Decimal
import Candlestick.Proofs.Numeral
import Candlestick.Proofs.Double.Text
import Candlestick.Proofs.Json.Number
import Candlestick.Proofs.Json.RoundTrip
import Candlestick.Proofs.Http.History
import Candlestick.Proofs.Http.Ticks
import Candlestick.Proofs.Engine.Symbols
import Candlestick.Proofs.Service.Run
import Candlestick.Proofs.Service.Symbols
import Candlestick.Proofs.Engine.Pool
import Candlestick.Proofs.Bus.Consumption
import Candlestick.Proofs.Bus.Feed
import Candlestick.Proofs.Service.Lifespan
import Candlestick.Proofs.Store.Contents
import Candlestick.Proofs.Message
import Candlestick.Proofs.Engine.Commutation
import Candlestick.Proofs.Service.Startup
import Candlestick.Proofs.Engine.Sweep
import Candlestick.Proofs.Service.Posts
import Candlestick.Proofs.Bus.Connecting
import Candlestick.Proofs.Http.Range
import Candlestick.Proofs.Engine.Lateness
import Candlestick.Proofs.Settings.Connection
import Candlestick.Proofs.Settings.Load
import Candlestick.Proofs.History
import Candlestick.Proofs.Walk.Rounds
import Candlestick.Proofs.Service.Walk

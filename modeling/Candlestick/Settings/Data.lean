import Candlestick.Data.Basic
import Candlestick.Settings.Basic

/-!
# Settings as values

Settings written out as a mapping, in which no setting is left out. `Data.update` changes one entry
of such a mapping.
-/

namespace Candlestick

namespace Data

/-- What is absent is written as null. -/
def ofOption {α : Type} (write : α → Data) (value : Option α) : Data :=
  (value.map write).getD .null

def ofTexts (texts : List String) : Data :=
  .list (texts.map .text)

/-- Changes what stands at the end of a path of keys. If nothing stands there, nothing changes. -/
def update (change : Data → Data) : List String → Data → Data
  | [], value => change value
  | name :: path, .mapping entries =>
    .mapping (entries.map fun (key, value) ↦
      (key, if key.isText name then update change path value else value))
  | _ :: _, value => value

end Data

namespace Settings

def Flush.toData (s : Flush) : Data :=
  .mapping [(.text "interval_ms", .int s.interval.val)]

def Generator.toData (s : Generator) : Data :=
  .mapping [(.text "enabled", .bool s.enabled), (.text "symbols", .ofTexts s.symbols),
    (.text "interval_ms", .int s.interval.val), (.text "seed", .ofOption .int s.seed)]

def Bus.toData (s : Bus) : Data :=
  .mapping [(.text "enabled", .bool s.enabled), (.text "servers", .ofTexts s.servers),
    (.text "client_name", .text s.clientName), (.text "queue", .ofOption .text s.queue)]

def Api.toData (s : Api) : Data :=
  .mapping [(.text "host", .text s.host), (.text "port", .int s.port.val)]

def toData (s : Settings) : Data :=
  .mapping [(.text "log_level", .text s.logLevel), (.text "flush", s.flush.toData),
    (.text "generator", s.generator.toData), (.text "nats", s.bus.toData),
    (.text "api", s.api.toData)]

end Settings

end Candlestick

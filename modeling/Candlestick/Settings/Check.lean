import Candlestick.Data.Checked
import Candlestick.Data.Scalar
import Candlestick.Settings.Basic

/-!
# Checking settings

Settings are read from a mapping of unknown shape. A section or a field that is absent keeps its
standard value, one that nobody knows is passed over, and every issue is reported, in the order
in which the fields are listed here.
-/

namespace Candlestick.Settings

def checkMilliseconds (value : Data) : Except Problem Milliseconds := do
  let n ← value.integer
  if h : 0 < n then return ⟨n, h⟩ else throw (.notAbove 0)

def checkPort (value : Data) : Except Problem Port := do
  let n ← value.integer
  if low : 0 < n then
    if high : n < 65536 then return ⟨n, low, high⟩ else throw (.notBelow 65536)
  else throw (.notAbove 0)

def checkOptional {α : Type} (check : Data → Except Problem α) : Data → Except Problem (Option α)
  | .null => .ok none
  | value => (check value).map some

def checkTexts : Data → Checked (List String)
  | .list items | .bag items => Checked.list (fun item ↦ .ofExcept item.string) 0 items
  | _ => .invalid [⟨[], .notList⟩]

/-- A field that keeps its standard value if it is absent. -/
def checkField {α : Type} (entries : List (Data × Data)) (name : String) (standard : α)
    (check : Data → Checked α) : Checked α :=
  match Data.entry? entries name with
  | none => .valid standard
  | some value => (check value).under (.field name)

def checkScalar {α : Type} (entries : List (Data × Data)) (name : String) (standard : α)
    (check : Data → Except Problem α) : Checked α :=
  checkField entries name standard fun value ↦ .ofExcept (check value)

/-- A section: a mapping whose entries are checked. -/
def checkSection {α : Type} (kind : String) (check : List (Data × Data) → Checked α) :
    Data → Checked α
  | .mapping entries => check entries
  | _ => .invalid [⟨[], .notSection kind⟩]

def checkFlush (entries : List (Data × Data)) : Checked Flush :=
  Flush.mk <$> checkScalar entries "interval_ms" Flush.standard.interval checkMilliseconds

def checkGenerator (entries : List (Data × Data)) : Checked Generator :=
  let standard := Generator.standard
  Generator.mk <$> checkScalar entries "enabled" standard.enabled Data.boolean
    <*> checkField entries "symbols" standard.symbols checkTexts
    <*> checkScalar entries "interval_ms" standard.interval checkMilliseconds
    <*> checkScalar entries "seed" standard.seed (checkOptional Data.integer)

def checkBus (entries : List (Data × Data)) : Checked Bus :=
  let standard := Bus.standard
  Bus.mk <$> checkScalar entries "enabled" standard.enabled Data.boolean
    <*> checkField entries "servers" standard.servers checkTexts
    <*> checkScalar entries "client_name" standard.clientName Data.string
    <*> checkScalar entries "queue" standard.queue (checkOptional Data.string)

def checkApi (entries : List (Data × Data)) : Checked Api :=
  let standard := Api.standard
  Api.mk <$> checkScalar entries "host" standard.host Data.string
    <*> checkScalar entries "port" standard.port checkPort

def check (entries : List (Data × Data)) : Checked Settings :=
  let standard := Settings.standard
  Settings.mk <$> checkScalar entries "log_level" standard.logLevel Data.string
    <*> checkField entries "flush" standard.flush (checkSection "FlushConfig" checkFlush)
    <*> checkField entries "generator" standard.generator
      (checkSection "GeneratorConfig" checkGenerator)
    <*> checkField entries "nats" standard.bus (checkSection "NatsSourceConfig" checkBus)
    <*> checkField entries "api" standard.api (checkSection "ApiConfig" checkApi)

end Candlestick.Settings

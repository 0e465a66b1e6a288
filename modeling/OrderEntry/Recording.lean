import OrderEntry.Event
import OrderEntry.Text.Json

/-! A file with one line for every event, in the order in which they came. Lines are collected and
flushed together, at the latest when the recording ends. -/

namespace OrderEntry

open Text (jsonText jsonNumber jsonOptionalText jsonObject)

def wordJson (w : UInt32) : List Char := jsonNumber w.toNat

def Side.json : Side → List Char
  | buy => jsonText "Buy"
  | sell => jsonText "Sell"

def Event.variant : Event → String
  | ack _ => "Ack"
  | trade _ => "Trade"
  | bookUpdate _ => "BookUpdate"
  | cancelAck _ => "CancelAck"

def Event.members : Event → List (String × List Char)
  | ack a => [("user_id", wordJson a.userId), ("order_id", wordJson a.orderId),
      ("symbol", jsonOptionalText a.symbol)]
  | trade t => [("buy_user_id", wordJson t.buyUserId), ("buy_order_id", wordJson t.buyOrderId),
      ("sell_user_id", wordJson t.sellUserId), ("sell_order_id", wordJson t.sellOrderId),
      ("price", wordJson t.price), ("qty", wordJson t.qty), ("symbol", jsonOptionalText t.symbol)]
  | bookUpdate b => [("symbol", jsonText b.symbol), ("side", b.side.json),
      ("price", wordJson b.price), ("qty", wordJson b.qty)]
  | cancelAck a => [("user_id", wordJson a.userId), ("order_id", wordJson a.orderId),
      ("symbol", jsonOptionalText a.symbol)]

def Event.json (e : Event) : List Char := jsonObject [(e.variant, jsonObject e.members)]

/-- An event and when it was recorded, in nanoseconds since 1970. A clock may be set to an earlier time. -/
structure Record where
  time : Int
  event : Event
  deriving DecidableEq, Repr

def Record.json (r : Record) : List Char :=
  jsonObject [("ts_ns", jsonNumber r.time), ("kind", jsonText r.event.kind.name),
    ("event", r.event.json)]

def Record.line (r : Record) : String := String.ofList (r.json ++ ['\n'])

structure Recording where
  /-- What has been flushed to the file. A full buffer of 8 KiB is passed on as well, so while a recording goes on
  the file may already have a first part of `collected`. -/
  written : String
  collected : String := ""
  sinceFlush : Nat := 0
  deriving DecidableEq, Repr

inductive RecordingInput
  | record (r : Record)
  /-- Once a second. -/
  | tick
  deriving DecidableEq, Repr

namespace Recording

def flushEvery : Nat := 1000

def flush (f : Recording) : Recording := { written := f.written ++ f.collected }

def step (f : Recording) : RecordingInput → Recording
  | .record r =>
    let f := { f with collected := f.collected ++ r.line, sinceFlush := f.sinceFlush + 1 }
    if flushEvery ≤ f.sinceFlush then f.flush else f
  | .tick => f.flush

def run (existing : String) (inputs : List RecordingInput) : String :=
  (inputs.foldl step { written := existing }).flush.written

def runs (existing : Option String) (inputs : List (List RecordingInput)) : Option String :=
  inputs.foldl (fun text run => some (Recording.run (text.getD "") run)) existing

end Recording
end OrderEntry

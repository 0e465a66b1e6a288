import OrderEntry.RecordPath
import OrderEntry.Recording

/-! Scripts for recordings: one after another to the same path in an otherwise empty folder. Of the
times in the file only their signs show. -/

namespace OrderEntry

structure RecordReport where
  results : List (Except RecordPath.OpenError Unit)
  lines : Option (List String)

namespace RecordReport

def timeMark : String := "\x7b\"ts_ns\":"

def isTime (numeral : List Char) : Bool :=
  let time := numeral.foldl (fun n c => 10 * n + (c.toNat - '0'.toNat)) 0
  0 < time && time < 0x8000000000000000

def hideTime (line : String) : String :=
  match line.splitOn timeMark with
  | before :: after :: rest =>
    let numeral := after.toList.takeWhile Char.isDigit
    let shown := if isTime numeral then "0" else "BAD"
    timeMark.intercalate
      (before :: (shown ++ String.ofList (after.toList.dropWhile Char.isDigit)) :: rest)
  | _ => line

end RecordReport

def rehearseRecordings (path : String) (existing : Option String) (runs : List (List Event)) :
    RecordReport :=
  match RecordPath.check ("./" ++ path) with
  | .error e => ⟨runs.map fun _ => .error e, none⟩
  | .ok () =>
    let text := Recording.runs existing (runs.map (·.map fun e => .record ⟨1, e⟩))
    ⟨runs.map fun _ => .ok (), text.map fun t => (t.splitOn "\n").map RecordReport.hideTime⟩

end OrderEntry

import EntityAudit.Text.Blank

namespace EntityAudit.Text

structure Columns where
  headings : List String
  rows : List (List String)

namespace Columns

def widest : List Nat → List Nat → List Nat
  | [], ws => ws
  | ws, [] => ws
  | v :: vs, w :: ws => max v w :: widest vs ws

def widths (t : Columns) : List Nat :=
  t.rows.foldl (fun ws row => widest ws (row.map (·.length))) (t.headings.map (·.length))

def padded (width : Nat) (cell : String) : String :=
  cell ++ String.ofList (List.replicate (width - cell.length) ' ')

def line (widths : List Nat) (cells : List String) : String :=
  String.ofList (trimEnd ("  ".intercalate (widths.zipWith padded cells)).toList)

def underline (widths : List Nat) : String :=
  "  ".intercalate (widths.map fun w => String.ofList (List.replicate w '-'))

def text (t : Columns) : String :=
  let ws := t.widths
  "\n".intercalate (line ws t.headings :: underline ws :: t.rows.map (line ws))

end Columns

end EntityAudit.Text

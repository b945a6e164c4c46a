/-!
# Reports of failures

A report begins with the outermost wording of a chain. Those below it follow, one to a line; they
are numbered where there are several. Later lines of a wording are indented like the first.

- `Report.indented`: a wording with something in front of each line.
- `Report.write`: the report of a chain.

This is how `anyhow` reports the error that `main` returns.
-/

namespace Carrier

namespace Report

/-- A text with something in front of its first line and something in front of each later line. -/
def indented (first later : String) (text : String) : String :=
  String.ofList (first.toList ++
    text.toList.flatMap fun c => if c = '\n' then '\n' :: later.toList else [c])

/-- What stands in front of a numbered wording: the number, at the right of five columns. -/
def rank (n : Nat) : String :=
  let digits := toString n
  String.ofList (List.replicate (5 - digits.length) ' ') ++ digits ++ ": "

/-- Wordings that are numbered from a number on. -/
def numbered (n : Nat) : List String → String
  | [] => ""
  | cause :: rest => "\n" ++ indented (rank n) "       " cause ++ numbered (n + 1) rest

/-- The wordings below the outermost one. -/
def causes : List String → String
  | [] => ""
  | [cause] => "\n\nCaused by:\n" ++ indented "    " "    " cause
  | all => "\n\nCaused by:" ++ numbered 0 all

/-- The report of a chain of wordings, outermost first. -/
def write : List String → String
  | [] => ""
  | outermost :: below => "Error: " ++ outermost ++ causes below ++ "\n"

end Report

end Carrier

import TypeGraph.Text.Width

/-!
# Text on a console

A console drops bell, backspace, vertical tab, form feed and carriage return, and widens a tab to
the next multiple of eight columns.

Two things are taken for granted.  The console is wide enough for every line, so it folds and cuts
none.  And no text has a code for a picture, a name between colons such as `:smile:`, which a
console may replace by that picture.
-/

namespace TypeGraph.Console

def isDropped (c : Char) : Bool :=
  let n := c.toNat
  n = 0x07 || n = 0x08 || n = 0x0B || n = 0x0C || n = 0x0D

def tabSize : Nat := 8

/-- Widens the tabs of a text.  A tab shows as a blank, and more blanks follow up to the next stop;
what stands since the stop before, which is `done` with its last character first, is measured
together with that blank. -/
def expandTabs (done : List Char) : List Char → List Char
  | [] => done.reverse
  | c :: rest =>
    if c = '\t' then
      let shown := (' ' :: done).reverse
      let beyond := Text.width shown % tabSize
      let blanks := if beyond = 0 then 0 else tabSize - beyond
      shown ++ List.replicate blanks ' ' ++ expandTabs [] rest
    else if c = '\n' then done.reverse ++ c :: expandTabs [] rest
    else expandTabs (c :: done) rest

def page (s : String) : String :=
  String.ofList (expandTabs [] (s.toList.filter (!isDropped ·)) ++ ['\n'])

end TypeGraph.Console

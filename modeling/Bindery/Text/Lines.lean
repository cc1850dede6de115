/-!
# Lines of generated text

Generated files are put together from lines, each closed by a line feed.
-/
namespace Bindery.Text

/-- Each line followed by a line feed. -/
def lines (ls : List String) : String :=
  String.join (ls.map (· ++ "\n"))

def commas (parts : List String) : String :=
  ", ".intercalate parts

end Bindery.Text

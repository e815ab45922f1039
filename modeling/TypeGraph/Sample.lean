/-!
# A sample source text
-/

namespace TypeGraph

/-- A small program with two contracts, one that joins them, and a type that satisfies both. -/
def sampleSource : String :=
  "\n".intercalate [
    "package main",
    "",
    "type Reader interface \x7b",
    "    Read(p []byte) (n int, err error)",
    "\x7d",
    "",
    "type Writer interface \x7b",
    "    Write(p []byte) (n int, err error)",
    "\x7d",
    "",
    "type ReadWriter interface \x7b",
    "    Reader",
    "    Writer",
    "\x7d",
    "",
    "type File struct \x7b",
    "    name string",
    "    content []byte",
    "\x7d",
    "",
    "func (f *File) Read(p []byte) (n int, err error) \x7b",
    "    return 0, nil",
    "\x7d",
    "",
    "func (f *File) Write(p []byte) (n int, err error) \x7b",
    "    return 0, nil",
    "\x7d"]

end TypeGraph

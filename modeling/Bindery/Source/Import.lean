import Bindery.Source.Identifier
import Bindery.Text.LetterCase
import Bindery.Text.Quoted

/-!
# Imports of a source file

Every package that a file uses gets a name when it is used first. Packages of the standard library
keep their own name, a package may come with a given name, and any other name is guessed from the
path and written out as an alias. A name that is taken or reserved gets a number.

## Main definitions

- `Source.Import` — a package path with the name under which the file knows it
- `Source.Imports` — the imports of a file, in the order of first use
- `Source.Imports.use` — makes a package known
- `Source.Imports.render` — the lines of the import declaration, in groups
-/

namespace Bindery.Source

/-- The packages of the standard library whose name is the last element of their path. -/
def standardPackages : List String :=
  ["archive/tar", "archive/zip", "bufio", "bytes", "cmp", "compress/bzip2", "compress/flate",
   "compress/gzip", "compress/lzw", "compress/zlib", "container/heap", "container/list",
   "container/ring", "context", "crypto", "crypto/aes", "crypto/cipher", "crypto/des", "crypto/dsa",
   "crypto/ecdh", "crypto/ecdsa", "crypto/ed25519", "crypto/elliptic", "crypto/hmac", "crypto/md5",
   "crypto/rand", "crypto/rc4", "crypto/rsa", "crypto/sha1", "crypto/sha256", "crypto/sha512",
   "crypto/subtle", "crypto/tls", "crypto/x509", "crypto/x509/pkix", "database/sql",
   "database/sql/driver", "debug/buildinfo", "debug/dwarf", "debug/elf", "debug/gosym",
   "debug/macho", "debug/pe", "debug/plan9obj", "embed", "encoding", "encoding/ascii85",
   "encoding/asn1", "encoding/base32", "encoding/base64", "encoding/binary", "encoding/csv",
   "encoding/gob", "encoding/hex", "encoding/json", "encoding/pem", "encoding/xml", "errors",
   "expvar", "flag", "fmt", "go/ast", "go/build", "go/build/constraint", "go/constant", "go/doc",
   "go/doc/comment", "go/format", "go/importer", "go/parser", "go/printer", "go/scanner",
   "go/token", "go/types", "go/version", "hash", "hash/adler32", "hash/crc32", "hash/crc64",
   "hash/fnv", "hash/maphash", "html", "html/template", "image", "image/color",
   "image/color/palette", "image/draw", "image/gif", "image/jpeg", "image/png",
   "index/suffixarray", "io", "io/fs", "io/ioutil", "iter", "log", "log/slog", "log/syslog", "maps",
   "math", "math/big", "math/bits", "math/cmplx", "math/rand", "mime", "mime/multipart",
   "mime/quotedprintable", "net", "net/http", "net/http/cgi", "net/http/cookiejar",
   "net/http/fcgi", "net/http/httptest", "net/http/httptrace", "net/http/httputil",
   "net/http/pprof", "net/mail", "net/netip", "net/rpc", "net/rpc/jsonrpc", "net/smtp",
   "net/textproto", "net/url", "os", "os/exec", "os/signal", "os/user", "path", "path/filepath",
   "plugin", "reflect", "regexp", "regexp/syntax", "runtime", "runtime/cgo", "runtime/coverage",
   "runtime/debug", "runtime/metrics", "runtime/pprof", "runtime/race", "runtime/trace", "slices",
   "sort", "strconv", "strings", "structs", "sync", "sync/atomic", "syscall", "testing",
   "testing/fstest", "testing/iotest", "testing/quick", "testing/slogtest", "text/scanner",
   "text/tabwriter", "text/template", "text/template/parse", "time", "time/tzdata", "unicode",
   "unicode/utf16", "unicode/utf8", "unique", "unsafe"]

/-- The text after the last slash of a path. -/
def lastElement (path : List Char) : List Char :=
  (path.reverse.takeWhile (· != '/')).reverse

/-- The name of a package of the standard library. -/
def standardName? (path : String) : Option String :=
  if path == "math/rand/v2" then some "rand"
  else if standardPackages.contains path then some (String.ofList (lastElement path.toList))
  else none

/-- The name guessed from a path: its last element in lower case, without anything but letters and
digits of ASCII and without leading digits. -/
def guessName (path : String) : String :=
  let path := path.toList
  let path := if path.getLast? == some '/' then path.dropLast else path
  let kept := (lowerCase (lastElement path)).filter fun c => ('a' ≤ c && c ≤ 'z') || c.isDigit
  match kept.dropWhile Char.isDigit with
  | [] => "pkg"
  | name => String.ofList name

/-- Names that no import may have: the keywords, the names that the language declares, and the
usual name of an error variable. -/
def reservedNames : List String :=
  keywords ++
    ["bool", "byte", "complex64", "complex128", "error", "float32", "float64", "int", "int8",
     "int16", "int32", "int64", "rune", "string", "uint", "uint8", "uint16", "uint32", "uint64",
     "uintptr", "true", "false", "iota", "nil", "append", "cap", "close", "complex", "copy",
     "delete", "imag", "len", "make", "new", "panic", "print", "println", "real", "recover", "err"]

/-- A package path with the name under which the file knows it. -/
structure Import where
  /-- The path of the package. -/
  path : String
  /-- The name that stands before the dot of a qualified identifier. -/
  name : String
  /-- Whether the import declaration spells out the name. -/
  aliased : Bool
  deriving DecidableEq, Repr

/-- The imports of a file, in the order of first use. -/
abbrev Imports := List Import

namespace Imports

/-- The import of a path. -/
def find (is : Imports) (path : String) : Option Import :=
  is.find? (·.path == path)

/-- The name of a package in the file, empty if the package is not imported. -/
def nameOf (is : Imports) (path : String) : String :=
  (is.find path).elim "" (·.name)

/-- Whether a name is still free. -/
def isFree (is : Imports) (name : String) : Bool :=
  !reservedNames.contains name && !is.any (·.name == name)

/-- The first free name among `name` with the numbers from `n` on, looking at `count` of them. -/
def numbered (is : Imports) (name : String) : (count n : Nat) → String
  | 0, n => name ++ toString n
  | count + 1, n =>
    let candidate := name ++ toString n
    if is.isFree candidate then candidate else is.numbered name count (n + 1)

/-- The name itself if it is free, else the name with the first number that makes it free. One of
the first numbers does, since only so many names are taken. -/
def freeName (is : Imports) (name : String) : String :=
  if is.isFree name then name
  else is.numbered name (is.length + reservedNames.length) 1

/-- Makes a package known. The path `given` comes with a name of its own. -/
def use (given : Option (String × String)) (is : Imports) (path : String) : Imports :=
  if (is.find path).isSome then is
  else if path == "C" then is ++ [⟨path, "C", false⟩]
  else
    let ownName := match given with
      | some (known, name) => if known == path then some name else standardName? path
      | none => standardName? path
    let wanted := ownName.getD (guessName path)
    let name := is.freeName wanted
    is ++ [⟨path, name, ownName.isNone || name != wanted⟩]

/-- The imports of a file that uses these packages in this order. -/
def ofPaths (given : Option (String × String)) (paths : List String) : Imports :=
  paths.foldl (use given) []

end Imports

/-- The import specification of a package. -/
def Import.spec (i : Import) : String :=
  if i.aliased then i.name ++ " " ++ quoted i.path else quoted i.path

/-- The group of an import path: paths without a dot in their first element, paths with one, and
the paths of `appengine`. -/
def importGroup (path : String) : Nat :=
  let cs := path.toList
  if "appengine".toList.isPrefixOf cs then 2
  else if (cs.takeWhile (· != '/')).contains '.' then 1
  else 0

/-- The imports sorted by a key and, within a key, by path. -/
def sortImports (key : String → Nat) (is : Imports) : Imports :=
  is.mergeSort fun a b =>
    key a.path < key b.path || (key a.path == key b.path && !(b.path < a.path))

/-- The paths before which a new group begins, in a list sorted by group. -/
def groupStarts : Imports → List String
  | a :: b :: rest =>
    if importGroup a.path == importGroup b.path then groupStarts (b :: rest)
    else b.path :: groupStarts (b :: rest)
  | _ => []

/-- Whether the path is written between its quotes as it is, so that a reader of the line finds it. -/
def isPlainPath (path : String) : Bool :=
  path != "" && quoted path == "\"" ++ path ++ "\""

/-- Cuts the sorted imports into runs. A run ends before the next path of `starts`, and a path that
is not written as it is hides itself and all later starts. -/
def cutRuns : (starts : List String) → Imports → List Imports
  | _, [] => []
  | starts, i :: rest =>
    let (here, starts) := match starts with
      | s :: more => if s == i.path && isPlainPath s then (true, more) else (false, starts)
      | [] => (false, [])
    match cutRuns starts rest with
    | [] => if here then [[], [i]] else [[i]]
    | run :: runs => if here then [] :: (i :: run) :: runs else (i :: run) :: runs

/-- The lines of the import declaration: nothing without imports, one line for one import, else a
block with a blank line between the groups. -/
def Imports.render : Imports → List String
  | [] => []
  | [i] => ["import " ++ i.spec]
  | is =>
    let sorted := sortImports importGroup is
    let runs := (cutRuns (groupStarts sorted) sorted).map (sortImports fun _ => 0)
    let blocks := runs.map (·.map fun i => "\t" ++ i.spec)
    ["import ("] ++ (blocks.intersperse [""]).flatten ++ [")"]

end Bindery.Source

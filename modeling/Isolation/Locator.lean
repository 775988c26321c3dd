import Isolation.Url.FilePath

/-!
# Locators

A locator says where the bytes of a resource are. It is a URL: `file` for a file, and `jar` for an
entry of an archive, whose text is that of the archive, the mark `!/` and the name of the entry.
-/

namespace Isolation

/-- Where the bytes of a resource are. -/
structure Locator where
  url : Url
  deriving DecidableEq

namespace Locator

/-- Reads a locator. -/
def parse (text : String) : Except Url.ParseError Locator :=
  (Url.parse text.toList).map Locator.mk

/-- The text of a locator; locators are compared and sorted by it. -/
def text (locator : Locator) : String :=
  locator.url.text

/-- The scheme of a locator. -/
def scheme (locator : Locator) : String :=
  .ofList locator.url.scheme

/-- The locator of a file, if its path is absolute. -/
def ofFile? (path : Path) : Option Locator :=
  (Url.ofFilePath? path).map Locator.mk

/-- What stands between an archive and the name of its entry. -/
def entryMark : List Char := ['!', '/']

/-- The locator of an entry of an archive, if the path of the archive is absolute; slashes at the
start of the name are left out. -/
def ofEntry? (archive : Path) (entry : String) : Option Locator := do
  let url ← Url.ofFilePath? archive
  let name := entry.toList.dropWhile (· == '/')
  (Url.parse ("jar:".toList ++ url.chars ++ entryMark ++ name)).toOption.map Locator.mk

/-- The path of a `file` locator. -/
def toFile? (locator : Locator) : Option Path :=
  if locator.url.scheme = "file".toList then locator.url.toFilePath? else none

/-- The archive and the entry of a `jar` locator. -/
def toEntry? (locator : Locator) : Option (Path × String) :=
  if locator.url.scheme = "jar".toList then do
    let (archive, entry) ← Text.cutFirst entryMark (locator.url.chars.drop "jar:".length)
    let path ← (← (Url.parse archive).toOption).toFilePath?
    return (path, .ofList entry)
  else none

end Locator

end Isolation

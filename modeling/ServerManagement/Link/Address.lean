/-!
# Addresses of services

Which texts can be dialled: those that name an authority and consist of characters that may stand
where they stand.
-/

set_option autoImplicit false

namespace ServerManagement.Link

/-- Letters, digits and the signs that a scheme may have. -/
def isSchemeChar (c : Char) : Bool := c.isAlphanum || "+-.~".toList.contains c

/-- Characters of an authority; a percent sign is looked at apart. -/
def isAuthorityChar (c : Char) : Bool := c.isAlphanum || "!$&'()*+,-.:;=@[]_~".toList.contains c

def endsAuthority (c : Char) : Bool := c == '/' || c == '?' || c == '#'

/-- Characters of a path that are not escaped. Those outside ASCII are let through. -/
def isPathChar (c : Char) : Bool :=
  c == '!' || c == '"' || ('$' ≤ c && c ≤ ';') || c == '=' || ('@' ≤ c && c ≤ '_') ||
    ('a' ≤ c && c != '`')

def isQueryChar (c : Char) : Bool :=
  c == '!' || ('$' ≤ c && c ≤ ';') || c == '=' || '?' ≤ c

/-- What has been seen of an authority. Colons and percent signs of user information do not count,
nor do those within brackets. -/
structure AuthorityScan where
  colons : Nat
  hasOpened : Bool
  hasClosed : Bool
  hasPercent : Bool
  endsInAt : Bool

namespace AuthorityScan

def start : AuthorityScan := ⟨0, false, false, false, false⟩

/-- Go over a character. Nothing is left of a scan that met a wrong one. -/
def next (scan : AuthorityScan) (c : Char) : Option AuthorityScan :=
  let scan := { scan with endsInAt := c == '@' }
  if c = ':' then
    if scan.colons < 8 then some { scan with colons := scan.colons + 1 } else none
  else if c = '[' then
    if scan.hasPercent || scan.hasOpened then none else some { scan with hasOpened := true }
  else if c = ']' then
    if !scan.hasOpened || scan.hasClosed then none
    else some { scan with hasClosed := true, colons := 0, hasPercent := false }
  else if c = '@' then some { scan with colons := 0, hasPercent := false }
  else if c = '%' then some { scan with hasPercent := true }
  else if isAuthorityChar c then some scan
  else none

/-- The scan of a complete authority is in order: brackets are closed, there is at most one port,
and the host is neither missing nor escaped. -/
def isComplete (scan : AuthorityScan) : Bool :=
  scan.hasOpened == scan.hasClosed && scan.colons ≤ 1 && !scan.endsInAt && !scan.hasPercent

end AuthorityScan

def isAuthority (text : List Char) : Bool :=
  match text.foldlM AuthorityScan.next AuthorityScan.start with
  | some scan => !text.isEmpty && scan.isComplete
  | none => false

/-- A text is a path with perhaps a query and a fragment. Of the fragment nothing is asked. -/
def isPathAndQuery (text : List Char) : Bool :=
  let isEnd (c : Char) : Bool := c == '?' || c == '#'
  let path := text.takeWhile fun c => !isEnd c
  match text.dropWhile fun c => !isEnd c with
  | '?' :: rest => path.all isPathChar && (rest.takeWhile (· != '#')).all isQueryChar
  | _ => path.all isPathChar

/-- The longest address, in bytes. -/
def longestAddress : Nat := 65534

def longestScheme : Nat := 64

/-- What follows the scheme, if there is one. -/
def afterScheme? (text : List Char) : Option (List Char) :=
  match text.dropWhile isSchemeChar with
  | ':' :: '/' :: '/' :: rest => some rest
  | _ => none

/-- The text can be dialled. Without a scheme it has to be an authority alone. -/
def isDiallable (address : String) : Bool :=
  let text := address.toList
  address.utf8ByteSize ≤ longestAddress && address != "*" &&
    match afterScheme? text with
    | none => isAuthority text
    | some rest =>
      (text.takeWhile isSchemeChar).length ≤ longestScheme &&
        isAuthority (rest.takeWhile fun c => !endsAuthority c) &&
        isPathAndQuery (rest.dropWhile fun c => !endsAuthority c)

end ServerManagement.Link

import CallFlow.Text.Hex
import CallFlow.Text.Utf8

/-!
# Request targets

What a request asks for, as its sender writes it: a path and perhaps a query with parameters. A
percent sign with two hexadecimal digits spells a byte, so that any text can be part of a path or a
parameter.
-/

namespace CallFlow.Http

/-! ## Escapes -/

/-- The byte of two hexadecimal digits. -/
def hexByte? (a b : Char) : Option UInt8 := do
  return .ofNat ((← Text.hexValue? a) * 16 + (← Text.hexValue? b))

/-- The bytes that a part of a target spells. A percent sign without two hexadecimal digits stands
for itself. -/
def unescape : List Char → List UInt8
  | [] => []
  | '%' :: a :: b :: cs => match hexByte? a b with
    | some byte => byte :: unescape cs
    | none => String.utf8EncodeChar '%' ++ unescape (a :: b :: cs)
  | c :: cs => String.utf8EncodeChar c ++ unescape cs

/-- The text that a part of a target spells. -/
def decoded (cs : List Char) : String := Text.Utf8.decode (unescape cs)

/-! ## Paths -/

/-- A target that begins with two slashes names a host first; the host is the one that is asked. -/
def withoutHost : List Char → List Char
  | '/' :: '/' :: cs => cs.dropWhile (· != '/')
  | cs => cs

/-- The segments that are left when a dot stays where it is and two dots go back by one. -/
def resolved (segments : List (List Char)) : List (List Char) :=
  (segments.foldl (fun back segment ↦
    if segment = ['.'] then back
    else if segment = ['.', '.'] then back.tail
    else segment :: back) []).reverse

/-- The path that a target spells. Dots are looked for before escapes are read, slashes after. -/
def pathOf (cs : List Char) : String :=
  let segments := ((withoutHost cs).dropWhile (· == '/')).splitOn '/'
  decoded ('/' :: List.intercalate ['/'] (resolved segments))

/-! ## Parameters -/

/-- The text that a name or a value in a query spells, where a plus sign is a space. -/
def decodedField (cs : List Char) : String :=
  decoded (cs.map fun c ↦ if c = '+' then ' ' else c)

/-- The parameters of a query. One without an equals sign is empty. -/
def paramsOf (query : List Char) : List (String × String) :=
  ((query.splitOn '&').filter (!·.isEmpty)).map fun field ↦
    let (name, value) := field.span (· != '=')
    (decodedField name, decodedField (value.drop 1))

/-! ## Targets -/

structure Target where
  path : String
  params : List (String × String)
deriving DecidableEq, Repr

/-- The target that a text spells. What follows a number sign is for the sender alone. -/
def Target.ofText (text : String) : Target :=
  let (path, query) := (text.toList.takeWhile (· != '#')).span (· != '?')
  ⟨pathOf path, paramsOf (query.drop 1)⟩

end CallFlow.Http

import SessionTokens.Text.Split

set_option autoImplicit false

namespace SessionTokens

open Text

structure MediaType where
  type : List Char
  subtype : List Char
  suffix : Option (List Char)
deriving DecidableEq

namespace MediaType

def isTokenChar (c : Char) : Bool :=
  c.isAlphanum || "!#$%&'*+-.^_\x60|~".toList.contains c

/-- Where a reader of parameters stands. -/
inductive Place
  | start
  | name
  | valueStart
  | value
  | quoteStart
  | quoted
  | quoteEnd
deriving DecidableEq

/-- A character that may stand in quotes. -/
def isQuotable (c : Char) : Bool :=
  31 < c.toNat && c.toNat != 127

/-- One character of parameters. The first character in quotes is taken as it is. -/
def step : Place → Char → Option Place
  | .start, c => if c == ' ' then some .start else if isTokenChar c then some .name else none
  | .name, c => if c == '=' then some .valueStart else if isTokenChar c then some .name else none
  | .valueStart, c =>
    if c == '"' then some .quoteStart else if isTokenChar c then some .value else none
  | .value, c => if c == ';' then some .start else if isTokenChar c then some .value else none
  | .quoteStart, c => if isQuotable c then some .quoted else none
  | .quoted, c =>
    if c == '"' then some .quoteEnd else if isQuotable c then some .quoted else none
  | .quoteEnd, c => if c == ';' then some .start else if c == ' ' then some .quoteEnd else none

/-- Whether parameters may end in a place. -/
def Place.isEnd : Place → Bool
  | .start => true
  | .valueStart => true
  | .value => true
  | .quoteEnd => true
  | _ => false

/-- Whether the text after the first semicolon is made of parameters. -/
def areParameters (s : List Char) : Bool :=
  ((s.foldlM step .start).map Place.isEnd).getD false

/-- Parts a subtype into its main part and its suffix. -/
def ofNames (type subtype : List Char) : MediaType :=
  match splitLast? '+' subtype with
  | some (c :: main, ending) => ⟨type, c :: main, some ending⟩
  | _ => ⟨type, subtype, none⟩

def isToken (s : List Char) : Bool :=
  !s.isEmpty && s.all isTokenChar

/-- The media type that a text writes, in small letters. A subtype may be empty where no
parameters follow. -/
def read? (s : List Char) : Option MediaType :=
  match splitFirst? '/' (s.map Char.toLower) with
  | none => none
  | some (type, rest) =>
    if !isToken type then none
    else
      match splitFirst? ';' rest with
      | none => if rest.all isTokenChar then some (ofNames type rest) else none
      | some (subtype, parameters) =>
        if isToken subtype && areParameters parameters then some (ofNames type subtype) else none

def isJson (m : MediaType) : Bool :=
  m.type == "application".toList &&
    (m.subtype == "json".toList || m.suffix == some "json".toList)

end MediaType

end SessionTokens

/-
  ScriptWeave.Property.Query
  ──────────────────────────
  **PROPERTIES BY NAME.**

  A name is read without regard to case, spaces, hyphens and low lines, and
  the word `is` before it counts for nothing.  A name alone is looked up among
  the properties that a character has or has not, then the categories, then
  the scripts.  With a value, the name is that of a property with many values.
-/
import ScriptWeave.Property.Age
import ScriptWeave.Property.Category
import ScriptWeave.Property.Flag
import ScriptWeave.Property.Script

namespace ScriptWeave.Property

/-! ## §1. Names. -/

/-- A name without what does not count in it.  Before `c` alone the word `is` stays: `isc` is a
name of its own. -/
def plainName (t : Text) : Text :=
  let plain (t : Text) : Text :=
    (t.filter (fun c => c.toNat < 0x80 && c ≠ ' ' && c ≠ '_' && c ≠ '-')).map Char.toLower
  match t with
  | i :: s :: rest =>
    if i.toLower = 'i' ∧ s.toLower = 's' then
      let name := plain rest
      if name = ['c'] then "isc" else name
    else plain t
  | t => plain t

/-- The names of properties that are neither a category nor a script: a property of this list
that the library has no table of is known, but has no characters to offer. -/
def knownNames : List Text :=
  [ "age ahex alpha alphabetic asciihexdigit bc bidic bidiclass bidicontrol bidim",
    "bidimirrored bidimirroringglyph bidipairedbracket bidipairedbrackettype blk block bmg",
    "bpb bpt canonicalcombiningclass cased casefolding caseignorable ccc ce cf",
    "changeswhencasefolded changeswhencasemapped changeswhenlowercased",
    "changeswhennfkccasefolded changeswhentitlecased changeswhenuppercased ci",
    "cjkaccountingnumeric cjkcompatibilityvariant cjkiicore cjkirggsource cjkirghsource",
    "cjkirgjsource cjkirgkpsource cjkirgksource cjkirgmsource cjkirgssource cjkirgtsource",
    "cjkirguksource cjkirgusource cjkirgvsource cjkothernumeric cjkprimarynumeric",
    "cjkrsunicode compex compositionexclusion cwcf cwcm cwkcf cwl cwt cwu dash",
    "decompositionmapping decompositiontype defaultignorablecodepoint dep deprecated di dia",
    "diacritic dm dt ea eastasianwidth ebase ecomp emod emoji emojicomponent emojimodifier",
    "emojimodifierbase emojipresentation epres equideo equivalentunifiedideograph",
    "expandsonnfc expandsonnfd expandsonnfkc expandsonnfkd ext extendedpictographic extender",
    "extpict fcnfkc fcnfkcclosure fullcompositionexclusion gc gcb generalcategory",
    "graphemebase graphemeclusterbreak graphemeextend graphemelink grbase grext grlink",
    "hangulsyllabletype hex hexdigit hst hyphen idc idcompatmathcontinue idcompatmathstart",
    "idcontinue ideo ideographic ids idsb idsbinaryoperator idst idstart idstrinaryoperator",
    "idsu idsunaryoperator incb indicconjunctbreak indicpositionalcategory",
    "indicsyllabiccategory inpc insc isc isocomment jamoshortname jg joinc joincontrol",
    "joininggroup joiningtype jsn jt kaccountingnumeric kcompatibilityvariant kehcat kehdesc",
    "kehhg kehifao kehjsesh kehnomirror kehnorotate kiicore kirggsource kirghsource",
    "kirgjsource kirgkpsource kirgksource kirgmsource kirgssource kirgtsource kirguksource",
    "kirgusource kirgvsource kothernumeric kprimarynumeric krsunicode lb lc linebreak loe",
    "logicalorderexception lower lowercase lowercasemapping math mcm modifiercombiningmark na",
    "na1 name namealias nchar nfcqc nfcquickcheck nfdqc nfdquickcheck nfkccasefold nfkccf",
    "nfkcqc nfkcquickcheck nfkcscf nfkcsimplecasefold nfkdqc nfkdquickcheck",
    "noncharactercodepoint nt numerictype numericvalue nv oalpha odi ogrext oidc oids olower",
    "omath otheralphabetic otherdefaultignorablecodepoint othergraphemeextend otheridcontinue",
    "otheridstart otherlowercase othermath otheruppercase oupper patsyn patternsyntax",
    "patternwhitespace patws pcm prependedconcatenationmark qmark quotationmark radical",
    "regionalindicator ri sb sc scf script scriptextensions scx sd sentencebreak",
    "sentenceterminal sfc simplecasefolding simplelowercasemapping simpletitlecasemapping",
    "simpleuppercasemapping slc softdotted space stc sterm suc tc term terminalpunctuation",
    "titlecasemapping uc uideo unicode1name unicoderadicalstroke unifiedideograph upper",
    "uppercase uppercasemapping urs variationselector verticalorientation vo vs wb whitespace",
    "wordbreak wspace xidc xidcontinue xids xidstart xonfc xonfd xonfkc xonfkd" ].flatMap words

/-! ## §2. Questions. -/

/-- What is asked for. -/
inductive Query where
  /-- A property, a category or a script by its name. -/
  | named (name : Text)
  /-- A value of a property. -/
  | valued (name value : Text)
  deriving Repr, DecidableEq

/-- Why there is no answer. -/
inductive Missing where
  /-- There is no such property. -/
  | property
  /-- The property has no such value. -/
  | value
  deriving Repr, DecidableEq

/-- The characters that a name stands for.  Three short names of properties are taken for those of
categories. -/
def byName (name : Text) : Except Missing Ranges :=
  if knownNames.contains name && !((words "cf sc lc").contains name) then
    match flag? name with
    | some s => .ok s
    | none => .error .property
  else
    match category? name with
    | some s => .ok s
    | none =>
      if isSurrogateCategory name then .error .value
      else
        match script? name with
        | some (_, s) => .ok s
        | none => .error (if isEmptyScript name then .value else .property)

/-- The characters that have a value of a property. -/
def byValue (name value : Text) : Except Missing Ranges :=
  let answer : Option Ranges → Except Missing Ranges
    | some s => .ok s
    | none => .error .value
  if (words "gc generalcategory").contains name then answer (category? value)
  else if (words "sc script").contains name then answer ((script? value).map (·.2))
  else if (words "scx scriptextensions").contains name then answer (extendedScript? value)
  else if name = "age" then answer (age? value)
  else .error (if knownNames.contains name then .value else .property)

/-- The characters that a question asks for. -/
def find : Query → Except Missing Ranges
  | .named name => byName (plainName name)
  | .valued name value => byValue (plainName name) (plainName value)

end ScriptWeave.Property

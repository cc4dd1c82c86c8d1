import StyleGuide.CharSet
import StyleGuide.CharSet.Age
import StyleGuide.CharSet.Binary
import StyleGuide.CharSet.Break
import StyleGuide.CharSet.Category
import StyleGuide.CharSet.Script
import StyleGuide.CharSet.ScriptExtension

/-!
Properties of characters by name. Names are compared without regard to case, spaces, hyphens,
underscores and a leading `is`.
-/

namespace StyleGuide.CharSet

/-- A property that is asked for: by its name alone, or by its name and a value. -/
inductive Query where
  | name (n : Text)
  | value (n v : Text)
  deriving DecidableEq, Repr

/-- Why there is no set for a query. -/
inductive Missing where
  | property
  | value
  deriving DecidableEq, Repr

def plainName (n : Text) : Text :=
  ((n.filter fun c => c.toNat < 0x80 && c != ' ' && c != '_' && c != '-')).map Char.toLower

/-- The form of a name in which names are compared. The name `isc` is not taken for `c`. -/
def looseName (n : Text) : Text :=
  match n with
  | a :: b :: rest =>
    if a.toLower = 'i' ∧ b.toLower = 's' then
      if plainName rest = ['c'] then ['i', 's', 'c'] else plainName rest
    else plainName n
  | _ => plainName n

/-- The names of properties that have no table of their own. -/
def otherProperties : List String := [
  "age", "bc", "Bidi_Class", "blk", "Block", "bmg", "Bidi_Mirroring_Glyph", "bpb",
  "Bidi_Paired_Bracket", "bpt", "Bidi_Paired_Bracket_Type", "ccc", "Canonical_Combining_Class",
  "CE", "Composition_Exclusion", "cf", "Case_Folding", "cjkAccountingNumeric", "kAccountingNumeric",
  "cjkCompatibilityVariant", "kCompatibilityVariant", "cjkIICore", "kIICore", "cjkIRG_GSource",
  "kIRG_GSource", "cjkIRG_HSource", "kIRG_HSource", "cjkIRG_JSource", "kIRG_JSource",
  "cjkIRG_KPSource", "kIRG_KPSource", "cjkIRG_KSource", "kIRG_KSource", "cjkIRG_MSource",
  "kIRG_MSource", "cjkIRG_SSource", "kIRG_SSource", "cjkIRG_TSource", "kIRG_TSource",
  "cjkIRG_UKSource", "kIRG_UKSource", "cjkIRG_USource", "kIRG_USource", "cjkIRG_VSource",
  "kIRG_VSource", "cjkMandarin", "kMandarin", "cjkOtherNumeric", "kOtherNumeric",
  "cjkPrimaryNumeric", "kPrimaryNumeric", "cjkRSUnicode", "kRSUnicode", "Unicode_Radical_Stroke",
  "URS", "cjkTotalStrokes", "kTotalStrokes", "cjkUnihanCore2020", "kUnihanCore2020", "Comp_Ex",
  "Full_Composition_Exclusion", "CWKCF", "Changes_When_NFKC_Casefolded", "dm",
  "Decomposition_Mapping", "dt", "Decomposition_Type", "ea", "East_Asian_Width", "EqUIdeo",
  "Equivalent_Unified_Ideograph", "FC_NFKC", "FC_NFKC_Closure", "gc", "General_Category", "GCB",
  "Grapheme_Cluster_Break", "hst", "Hangul_Syllable_Type", "InCB", "Indic_Conjunct_Break", "InPC",
  "Indic_Positional_Category", "InSC", "Indic_Syllabic_Category", "isc", "ISO_Comment", "jg",
  "Joining_Group", "JSN", "Jamo_Short_Name", "jt", "Joining_Type", "kEH_Cat", "kEH_Desc", "kEH_HG",
  "kEH_IFAO", "kEH_JSesh", "kEH_NoMirror", "kEH_NoRotate", "lb", "Line_Break", "lc",
  "Lowercase_Mapping", "na", "Name", "na1", "Unicode_1_Name", "Name_Alias", "NFC_QC",
  "NFC_Quick_Check", "NFD_QC", "NFD_Quick_Check", "NFKC_CF", "NFKC_Casefold", "NFKC_QC",
  "NFKC_Quick_Check", "NFKC_SCF", "NFKC_Simple_Casefold", "NFKD_QC", "NFKD_Quick_Check", "nt",
  "Numeric_Type", "nv", "Numeric_Value", "SB", "Sentence_Break", "sc", "Script", "scf", "sfc",
  "Simple_Case_Folding", "scx", "Script_Extensions", "slc", "Simple_Lowercase_Mapping", "stc",
  "Simple_Titlecase_Mapping", "suc", "Simple_Uppercase_Mapping", "tc", "Titlecase_Mapping", "uc",
  "Uppercase_Mapping", "vo", "Vertical_Orientation", "WB", "Word_Break", "XO_NFC", "Expands_On_NFC",
  "XO_NFD", "Expands_On_NFD", "XO_NFKC", "Expands_On_NFKC", "XO_NFKD", "Expands_On_NFKD"]

/-- Whether one of the names is the given one, in the form in which names are compared. -/
def named (names : List String) (n : Text) : Bool := names.any fun m => looseName m.toList = n

def tableOf? (tables : List (List String × List String)) (n : Text) : Option CharSet :=
  (tables.find? fun e => named e.1 n).map fun e => ofTable e.2

def categories (shortNames : List String) : CharSet :=
  unions (shortNames.filterMap fun m => tableOf? categoryTables (looseName m.toList))

def surrogates : CharSet := range 0xD800 0xDFFF

def unassigned : CharSet :=
  ((categories (categoryTables.filterMap fun e => e.1.head?)).union surrogates).complement

/-- The categories that are joined from others. -/
def categoryGroups : List (List String × List String) := [
  (["LC", "Cased_Letter"], ["Lu", "Ll", "Lt"]),
  (["L", "Letter"], ["Lu", "Ll", "Lt", "Lm", "Lo"]),
  (["M", "Mark", "Combining_Mark"], ["Mn", "Mc", "Me"]),
  (["N", "Number"], ["Nd", "Nl", "No"]),
  (["P", "Punctuation", "Punct"], ["Pc", "Pd", "Ps", "Pe", "Pi", "Pf", "Po"]),
  (["S", "Symbol"], ["Sm", "Sc", "Sk", "So"]),
  (["Z", "Separator"], ["Zs", "Zl", "Zp"])]

/-- A category by a name of the form in which names are compared; nothing if there is no such name.
Surrogates are a category without characters. -/
def category? (n : Text) : Option (Except Missing CharSet) :=
  if named ["Any"] n then some (.ok all)
  else if named ["ASCII"] n then some (.ok (range 0 0x7F))
  else if named ["Assigned"] n then some (.ok unassigned.complement)
  else if named ["Cn", "Unassigned"] n then some (.ok unassigned)
  else if named ["C", "Other"] n then
    some (.ok ((categories ["Cc", "Cf", "Co"]).union unassigned))
  else if named ["Cs", "Surrogate"] n then some (.error .value)
  else match categoryGroups.find? fun e => named e.1 n with
    | some e => some (.ok (categories e.2))
    | none => (tableOf? categoryTables n).map .ok

/-- A script by a name. Some scripts have a name and no characters. -/
def script? (n : Text) : Option (Except Missing CharSet) :=
  if named ["Hrkt", "Katakana_Or_Hiragana", "Zzzz", "Unknown"] n then some (.error .value)
  else (tableOf? scriptTables n).map .ok

/-- The characters that are used in a script. -/
def scriptExtension? (n : Text) : Option CharSet :=
  match scriptTables.find? fun e => named e.1 n with
  | none => none
  | some e =>
    let key := looseName ((e.1.head?.getD "").toList)
    let more := (tableOf? scriptExtensionTables key).getD empty
    let shared := (tableOf? scriptSharedTables key).getD empty
    some (((ofTable e.2).diff shared).union more)

/-- The characters of a version of the standard and of those before it. -/
def age? (n : Text) : Option CharSet :=
  (ageTables.findIdx? fun e => named e.1 n).map fun i =>
    unions ((ageTables.take (i + 1)).map fun e => ofTable e.2)

def orValueMissing (s : Option CharSet) : Except Missing CharSet :=
  match s with
  | some s => .ok s
  | none => .error .value

/-- The set of a name alone: a property, a category or a script. Three names stand for categories
though they are short names of properties too. -/
def byName (n : Text) : Except Missing CharSet :=
  let isCategory := n = ['c', 'f'] || n = ['s', 'c'] || n = ['l', 'c']
  if !isCategory && named otherProperties n then .error .property
  else match if isCategory then none else tableOf? binaryTables n with
    | some s => .ok s
    | none => ((category? n).or (script? n)).getD (.error .property)

/-- The set of a property with a value. -/
def byValue (n v : Text) : Except Missing CharSet :=
  if named ["gc", "General_Category"] n then (category? v).getD (.error .value)
  else if named ["sc", "Script"] n then (script? v).getD (.error .value)
  else if named ["scx", "Script_Extensions"] n then orValueMissing (scriptExtension? v)
  else if named ["Age"] n then orValueMissing (age? v)
  else if named ["GCB", "Grapheme_Cluster_Break"] n then
    orValueMissing (tableOf? graphemeTables v)
  else if named ["WB", "Word_Break"] n then orValueMissing (tableOf? wordTables v)
  else if named ["SB", "Sentence_Break"] n then orValueMissing (tableOf? sentenceTables v)
  else if named otherProperties n || binaryTables.any fun e => named e.1 n then .error .value
  else .error .property

def Query.resolve : Query → Except Missing CharSet
  | name n => byName (looseName n)
  | value n v => byValue (looseName n) (looseName v)

/-! The classes of characters in everyday use. -/

def digits : CharSet := categories ["Nd"]

def blanks : CharSet := (tableOf? binaryTables (looseName "White_Space".toList)).getD empty

/-- Characters of words: letters and marks, digits, and what joins words. -/
def wordCharacters : CharSet :=
  unions [(tableOf? binaryTables (looseName "Alphabetic".toList)).getD empty,
    (tableOf? binaryTables (looseName "Join_Control".toList)).getD empty,
    categories ["Mn", "Mc", "Me", "Nd", "Pc"]]

end StyleGuide.CharSet

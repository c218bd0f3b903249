import Compliance.Text.Property.Age
import Compliance.Text.Property.Break
import Compliance.Text.Property.ScriptExtension

/-!
# Properties by name

Names of properties and of their values are compared loosely: case, blanks, hyphens,
underscores and a leading `is` do not count.
-/

namespace Compliance.Property

open CodeSet

/-- A name in the form in which names are compared.  The name `isc` stands on its own; it is not
the category `c`. -/
def looseName (name : Text) : Text :=
  let startsWithIs := Text.lower (name.take 2) == ['i', 's']
  let body := if startsWithIs then name.drop 2 else name
  let kept := body.filter fun c => c.toNat < 0x80 && c ≠ ' ' && c ≠ '_' && c ≠ '-'
  let loose := kept.map Char.toLower
  if startsWithIs && loose == ['c'] then ['i', 's', 'c'] else loose

def itemNamed? {α : Type} (table : List (List String × α)) (loose : Text) : Option α :=
  (table.find? fun entry => entry.1.any fun name => looseName name.toList == loose).map (·.2)

def script? (loose : Text) : Option CodeSet := (itemNamed? scriptRows loose).map ofRows

def scriptExtension? (loose : Text) : Option CodeSet :=
  (scriptRows.find? fun entry => entry.1.any fun name => looseName name.toList == loose).map
    fun entry =>
      let apart := (scriptExtensionRows.lookup (entry.1.take 1)).getD []
      symmDiff (ofRows entry.2) (ofRows apart)

/-- The characters of a version and of all versions before it. -/
def age? (loose : Text) : Option CodeSet :=
  let named (entry : List String × List String) : Bool :=
    entry.1.any fun name => looseName name.toList == loose
  let older := ageRows.takeWhile fun entry => !named entry
  (ageRows.find? named).map fun entry => unions ((older ++ [entry]).map fun entry => ofRows entry.2)

def named? (name : Text) : Option CodeSet :=
  let loose := looseName name
  (itemNamed? binaryProperties loose).or ((itemNamed? categories loose).or (script? loose))

def valuedProperties : List (List String × (Text → Option CodeSet)) := [
  (["gc", "General_Category"], itemNamed? categories), (["sc", "Script"], script?),
  (["scx", "Script_Extensions"], scriptExtension?), (["age"], age?),
  (["GCB", "Grapheme_Cluster_Break"], itemNamed? clusterBreaks),
  (["WB", "Word_Break"], itemNamed? wordBreaks),
  (["SB", "Sentence_Break"], itemNamed? sentenceBreaks)]

def valued? (property value : Text) : Option CodeSet :=
  (itemNamed? valuedProperties (looseName property)).bind fun values => values (looseName value)

end Compliance.Property

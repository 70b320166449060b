import SeedStream.Pattern.Parser
import SeedStream.Text

/-!
# Selection by channel name

Channels are kept or dropped by their names, given in a list or by a pattern,
or by a condition of the caller's own.
-/

set_option autoImplicit false

namespace SeedStream

inductive ChannelFilter
  | all
  | only (names : List String)
  | allBut (names : List String)
  | matching (p : Pattern)
  | notMatching (p : Pattern)
  | custom (keep : String → Bool)

namespace ChannelFilter

instance : Inhabited ChannelFilter := ⟨all⟩

def keeps (f : ChannelFilter) (name : String) : Bool :=
  match f with
  | .all => true
  | .only names => names.contains name
  | .allBut names => !names.contains name
  | .matching p => p.isMatch name
  | .notMatching p => !p.isMatch name
  | .custom keep => keep name

def isAll : ChannelFilter → Bool
  | .all => true
  | _ => false

def diagnosticText : ChannelFilter → String
  | .all => "All"
  | .only names => "Include(" ++ Text.quotedList names ++ ")"
  | .allBut names => "Exclude(" ++ Text.quotedList names ++ ")"
  | .matching p => "RegexInclude(" ++ Text.quoted p.text ++ ")"
  | .notMatching p => "RegexExclude(" ++ Text.quoted p.text ++ ")"
  | .custom _ => "Custom(\"<fn>\")"

def ofPatterns (keep drop : Option Pattern) : ChannelFilter :=
  match keep, drop with
  | none, none => .all
  | some p, none => .matching p
  | none, some q => .notMatching q
  | some p, some q => .custom fun name => p.isMatch name && !q.isMatch name

end ChannelFilter
end SeedStream

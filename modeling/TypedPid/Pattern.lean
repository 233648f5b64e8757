import TypedPid.Regex.Reader

/-!
Value patterns: a regular expression as a definition writes it, set between the two ends of the
value so that it has to cover the whole of it.
-/
namespace TypedPid

def anchored (source : String) : String := "^(?:" ++ source ++ ")$"

structure ValuePattern where
  source : String
  regex : Regex
  regex_eq : Regex.ofString? (anchored source) = .ok regex

namespace ValuePattern

theorem ext_source {p q : ValuePattern} (h : p.source = q.source) : p = q := by
  obtain ⟨source, r, hr⟩ := p
  obtain ⟨source', r', hr'⟩ := q
  subst h
  rw [hr] at hr'
  cases hr'
  rfl

/-- Two patterns are the same when they are written the same. -/
instance : DecidableEq ValuePattern := fun p q =>
  if h : p.source = q.source then isTrue (ext_source h) else isFalse fun e => h (e ▸ rfl)

def ofString? (source : String) : Except Regex.SyntaxError ValuePattern :=
  match h : Regex.ofString? (anchored source) with
  | .ok regex => .ok ⟨source, regex, h⟩
  | .error e => .error e

def accepts (p : ValuePattern) (value : String) : Bool := p.regex.isMatch value.toList

end ValuePattern
end TypedPid

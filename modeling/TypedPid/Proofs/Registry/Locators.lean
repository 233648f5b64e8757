import Mathlib.Data.List.Forall2
import Mathlib.Tactic.Common
import TypedPid.Proofs.Url.Segments
import TypedPid.Registry

/-!
Where a registry keeps its objects: behind `objects`, under one segment for each part of the identifier,
which reads as that part. This is so for identifiers without tabs and line ends, which locators leave out.
-/

namespace TypedPid

namespace Registry

open UrlPath

variable {r : Registry} {identifier other : String} {url url' : Url}

/-- A segment names a part of an identifier if it reads as it, and keeps its own place in a path. -/
structure Names (segment part : String) : Prop where
  reads : Reads segment part
  stays : isDot segment = false ∧ isDoubleDot segment = false

/-- A locator that differs from the base in its path alone, which goes on with `objects` and a segment
for each part of the identifier. -/
def Located (base : Url) (identifier : String) (url : Url) : Prop :=
  ∃ segments names, base.path = .segments segments ∧
    url = { base with path := .segments (directory segments ++ "objects" :: names) } ∧
    List.Forall₂ Names names (parts identifier)

lemma toList_parts (identifier : String) :
    (parts identifier).map String.toList = identifier.toList.splitOn '/' := by
  rw [parts, split_eq_splitOn, List.map_map]
  simp [Function.comp_def]

lemma parts_injective (h : parts identifier = parts other) : identifier = other := by
  have hl := congrArg (List.map String.toList) h
  rw [toList_parts, toList_parts] at hl
  have hjoined : ['/'].intercalate (identifier.toList.splitOn '/') = identifier.toList :=
    List.intercalate_splitOn '/'
  rw [hl, List.intercalate_splitOn] at hjoined
  exact String.toList_inj.1 hjoined.symm

lemma parts_ne_nil (identifier : String) : parts identifier ≠ [] := by
  intro h
  have hl := toList_parts identifier
  rw [h] at hl
  exact List.splitOn_ne_nil _ _ hl.symm

lemma forall_plain_iff : (∀ part ∈ parts identifier, Plain part) ↔ Plain identifier := by
  have hslash : ∀ c, decide (c = '/') = true → isTabOrNewline c = false := by
    intro c hc
    rw [of_decide_eq_true hc]
    rfl
  have h := forall_split_iff hslash identifier.toList
  simpa [parts, Plain] using h

lemma any_improper_iff : (parts identifier).any ["", ".", ".."].contains = true ↔
    ¬ ∀ part ∈ parts identifier, Proper part := by
  rw [List.any_eq_true, not_forall]
  refine exists_congr fun part => ?_
  rw [Classical.not_imp, Proper, not_not, List.contains_iff_mem]

lemma objectUrl?_eq_some_iff : r.objectUrl? identifier = some url ↔
    (∀ part ∈ parts identifier, Proper part) ∧ ∃ segments, r.base.path = .segments segments ∧
      { r.base with path := .segments ((parts identifier).foldl
        (push (Url.isSpecial r.base.scheme)) (opened (popEmpty segments) ++ ["objects"])) } = url := by
  rw [objectUrl?]
  split
  · next h =>
    rw [any_improper_iff] at h
    exact iff_of_false (by simp) fun h' => h h'.1
  · next h =>
    rw [any_improper_iff, not_not] at h
    cases hpath : r.base.path with
    | rootless _ => simp
    | segments segments =>
      simp only [push_objects, Option.some.injEq, UrlPath.segments.injEq, exists_eq_left']
      exact (and_iff_right h).symm

lemma opened_ne (segments : List String) : opened segments ++ ["objects"] ≠ [] ∧
    opened segments ++ ["objects"] ≠ [""] := by
  constructor
  · simp
  · intro h
    exact absurd (List.append_inj' (h.trans (List.nil_append [""]).symm) rfl).2 (by decide)

def names (r : Registry) (identifier : String) : List String :=
  (parts identifier).map (written (Url.isSpecial r.base.scheme))

lemma names_ne_nil (r : Registry) (identifier : String) : r.names identifier ≠ [] :=
  List.map_eq_nil_iff.not.2 (parts_ne_nil identifier)

lemma names_injective (h : r.names identifier = r.names other) : identifier = other :=
  parts_injective (List.map_injective_iff.2 (written_injective _) h)

lemma slash_not_mem_names (r : Registry) (identifier : String) :
    ∀ segment ∈ r.names identifier, '/' ∉ segment.toList := by
  intro segment hs
  obtain ⟨part, -, rfl⟩ := List.mem_map.1 hs
  exact slash_not_mem_written _ _

lemma names_parts (hparts : ∀ part ∈ parts identifier, Proper part) :
    List.Forall₂ Names (r.names identifier) (parts identifier) := by
  rw [names, List.forall₂_map_left_iff, List.forall₂_same]
  exact fun part hpart => ⟨reads_written _ part, stays_written _ (hparts part hpart)⟩

lemma objectUrl?_of_plain (h : r.objectUrl? identifier = some url) (hp : Plain identifier) :
    ∃ segments, r.base.path = .segments segments ∧
      { r.base with path := .segments (opened (popEmpty segments) ++ ["objects"] ++
        r.names identifier) } = url := by
  obtain ⟨hproper, segments, hpath, rfl⟩ := objectUrl?_eq_some_iff.1 h
  refine ⟨segments, hpath, ?_⟩
  rw [foldl_push _ (fun part hpart => ⟨hproper part hpart, forall_plain_iff.2 hp part hpart⟩)
    (opened_ne _), names]

lemma located_iff (h : r.objectUrl? identifier = some url) :
    Located r.base identifier url ↔ Plain identifier ∧ r.base.path ≠ .segments ["", ""] := by
  constructor
  · rintro ⟨segments, names, hpath, hurl, hnames⟩
    obtain ⟨hproper, segments', hpath', rfl⟩ := objectUrl?_eq_some_iff.1 h
    rw [hpath] at hpath' ⊢
    cases hpath'
    have hpushed := congrArg Url.path hurl
    simp only [UrlPath.segments.injEq] at hpushed
    rw [List.append_cons (directory segments)] at hpushed
    obtain ⟨hstart, hplain⟩ := of_foldl_push hpushed (by simp)
      (hnames.flip.imp fun _ _ hn => hn.reads) hproper
    refine ⟨forall_plain_iff.1 hplain, fun heq => ?_⟩
    cases heq
    exact absurd (List.append_inj_left' hstart rfl) (by decide)
  · rintro ⟨hplain, hroot⟩
    obtain ⟨segments, hpath, rfl⟩ := objectUrl?_of_plain h hplain
    have hne : segments ≠ ["", ""] := fun heq => hroot (by rw [hpath, heq])
    refine ⟨segments, r.names identifier, hpath, ?_, names_parts (objectUrl?_eq_some_iff.1 h).1⟩
    rw [opened_popEmpty_iff.2 hne, List.append_assoc, List.singleton_append]

lemma eq_of_text (h : r.objectUrl? identifier = some url) (hp : Plain identifier)
    (h' : r.objectUrl? other = some url') (hp' : Plain other) (ht : url.text = url'.text) :
    identifier = other := by
  obtain ⟨segments, hpath, rfl⟩ := objectUrl?_of_plain h hp
  obtain ⟨segments', hpath', rfl⟩ := objectUrl?_of_plain h' hp'
  cases hpath.symm.trans hpath'
  exact names_injective (segments_of_text (slash_not_mem_names _ _) (slash_not_mem_names _ _)
    (r.base.text_of_text_append (opened_ne (popEmpty segments)).1 (names_ne_nil _ _)
      (names_ne_nil _ _) ht))

/-- The locator of an identifier is the one under which its object is kept exactly if the identifier
has no tabs and line ends and the path of the registry is not made of two empty segments. Two identifiers
without tabs and line ends have different locators. -/
theorem located_iff_plain (h : r.objectUrl? identifier = some url) :
    (Located r.base identifier url ↔ Plain identifier ∧ r.base.path ≠ .segments ["", ""]) ∧
      (Plain identifier → ∀ other url', r.objectUrl? other = some url' → Plain other →
        url.text = url'.text → identifier = other) :=
  ⟨located_iff h, fun hp _ _ h' hp' ht => eq_of_text h hp h' hp' ht⟩

def atHost (segments : List String) : Registry where
  base := { scheme := "http", host := some (.domain "dtr.example.org"), path := .segments segments }
  timeout := .ofSeconds 5

theorem located_iff_plain_reserved : ∃ url,
    (atHost ["api", ""]).objectUrl? "21.T11148/T1?x=100%" = some url ∧
      url.text = "http://dtr.example.org/api/objects/21.T11148/T1%3Fx=100%25" ∧
      Located (atHost ["api", ""]).base "21.T11148/T1?x=100%" url := by
  have hplain : Plain "21.T11148/T1?x=100%" := by decide
  have h : (atHost ["api", ""]).objectUrl? "21.T11148/T1?x=100%" = some _ :=
    objectUrl?_eq_some_iff.2 ⟨by decide, _, rfl, rfl⟩
  obtain ⟨segments, hpath, hurl⟩ := objectUrl?_of_plain h hplain
  cases hpath
  refine ⟨_, h, ?_, ((located_iff_plain h).1).2 ⟨hplain, by decide⟩⟩
  rw [← hurl]
  rfl

lemma isDoubleDot_dots : isDoubleDot ".." = true := by
  have hlower : "..".toLower = ".." := String.toList_inj.1 ((toList_toLower "..").trans (by decide))
  rw [isDoubleDot, hlower]
  decide

theorem tab_not_located :
    (∃ url, (atHost [""]).objectUrl? "a\tb" = some url ∧ (atHost [""]).objectUrl? "ab" = some url ∧
      ¬ Located (atHost [""]).base "a\tb" url) ∧
    (∃ url, (atHost [""]).objectUrl? ".\t./x" = some url ∧ url.path = .segments ["x"]) ∧
    ∃ url, (atHost ["", ""]).objectUrl? "a" = some url ∧ url.path = .segments ["objects", "a"] := by
  have htab : (atHost [""]).objectUrl? "a\tb" = some _ :=
    objectUrl?_eq_some_iff.2 ⟨by decide, _, rfl, rfl⟩
  have hab : (atHost [""]).objectUrl? "ab" = some _ :=
    objectUrl?_eq_some_iff.2 ⟨by decide, _, rfl, rfl⟩
  have hdots : (atHost [""]).objectUrl? ".\t./x" = some _ :=
    objectUrl?_eq_some_iff.2 ⟨by decide, _, rfl, rfl⟩
  have hroot : (atHost ["", ""]).objectUrl? "a" = some _ :=
    objectUrl?_eq_some_iff.2 ⟨by decide, _, rfl, rfl⟩
  refine ⟨⟨_, htab, ?_, fun h => ?_⟩, ⟨_, hdots, ?_⟩, ⟨_, hroot, ?_⟩⟩
  · rw [hab]
    rfl
  · exact absurd ((located_iff htab).1 h).1 (by decide)
  · have hup : push true ["objects"] ".\t." = [""] := by
      rw [push_eq, close, show written true (stripped ".\t.") = ".." from rfl, if_pos isDoubleDot_dots]
      rfl
    have hx : push true [""] "x" = ["x"] := by
      rw [push_of_plain _ _ (by decide) (by decide)]
      rfl
    exact congrArg UrlPath.segments ((congrArg (push true · "x") hup).trans hx)
  · have ha : push true ["objects"] "a" = ["objects", "a"] := by
      rw [push_of_plain _ _ (by decide) (by decide)]
      rfl
    exact congrArg UrlPath.segments ha

end Registry

end TypedPid

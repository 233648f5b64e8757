import Mathlib.Data.List.Forall2
import Mathlib.Tactic.Common
import TypedPid.Proofs.Text.Decoding
import TypedPid.Proofs.Unicode.Lowercase
import TypedPid.Url.Path

/-!
Segments of a path. A segment is written so that it reads as the text it was made of, and a path can be
taken apart again. What is added at the end of a path stays there, unless it is made of dots or loses
characters on the way.
-/

namespace TypedPid

namespace UrlPath

/-- What a segment stands for when its percent signs are read. -/
def Reads (segment text : String) : Prop :=
  Utf8.decode? (Percent.decode (Utf8.encode segment)) = some text

/-- Without the characters that locators leave out. -/
def Plain (text : String) : Prop := ∀ c ∈ text.toList, isTabOrNewline c = false

instance (text : String) : Decidable (Plain text) := List.decidableBAll _ text.toList

/-- What names a place of its own below another one. -/
def Proper (text : String) : Prop := text ∉ ["", ".", ".."]

instance (text : String) : Decidable (Proper text) :=
  inferInstanceAs (Decidable (text ∉ ["", ".", ".."]))

/-- The segments without one empty one at the end. -/
def directory (segments : List String) : List String :=
  if segments.getLast? = some "" then segments.dropLast else segments

variable {special : Bool} {separates : Char → Bool} {P : Char → Prop} {cs ds : List Char}
  {s t p e : String} {ps qs parts segments above : List String}

section Splitting

lemma split_eq_splitOn (cs : List Char) : split (· = '/') cs = cs.splitOn '/' := by
  induction cs with
  | nil => rfl
  | cons c cs ih =>
    rw [split, ih, List.splitOn_cons_eq_if_modifyHead]
    by_cases hc : c = '/'
    · rw [if_pos (decide_eq_true hc), if_pos (beq_iff_eq.2 hc)]
    · rw [if_neg (by simpa using hc), if_neg (by simpa using hc)]
      cases h : cs.splitOn '/' with
      | nil => exact absurd h (List.splitOn_ne_nil _ _)
      | cons l ls => rfl

lemma forall_split_iff (hP : ∀ c, separates c = true → P c) (cs : List Char) :
    (∀ l ∈ split separates cs, ∀ c ∈ l, P c) ↔ ∀ c ∈ cs, P c := by
  induction cs with
  | nil => simp [split]
  | cons c cs ih =>
    rw [split]
    split
    · next hc => simp [hP c hc, ih]
    · cases h : split separates cs with
      | nil => simp [← ih, h]
      | cons l ls => simp [← ih, h, and_assoc]

lemma toList_text (ps : List String) :
    (UrlPath.segments ps).text.toList = ps.flatMap fun s => '/' :: s.toList := by
  rw [text]
  induction ps with
  | nil => rfl
  | cons s ps ih => simp [ih]

lemma text_append (ps qs : List String) :
    (UrlPath.segments (ps ++ qs)).text = (UrlPath.segments ps).text ++ (UrlPath.segments qs).text := by
  simp [← String.toList_inj, toList_text]

lemma splitOn_append_text (hcs : '/' ∉ cs) (hps : ∀ s ∈ ps, '/' ∉ s.toList) :
    (cs ++ (UrlPath.segments ps).text.toList).splitOn '/' = cs :: ps.map String.toList := by
  rw [toList_text]
  induction ps generalizing cs with
  | nil => rw [List.flatMap_nil, List.append_nil, List.splitOn_eq_singleton hcs, List.map_nil]
  | cons s ps ih =>
    obtain ⟨hs, hps⟩ := List.forall_mem_cons.1 hps
    rw [List.flatMap_cons, List.cons_append, List.splitOn_append_cons_self_of_not_mem hcs, ih hs hps,
      List.map_cons]

lemma splitOn_text (hps : ∀ s ∈ ps, '/' ∉ s.toList) :
    (UrlPath.segments ps).text.toList.splitOn '/' = [] :: ps.map String.toList :=
  splitOn_append_text List.not_mem_nil hps

lemma segments_of_text (hps : ∀ s ∈ ps, '/' ∉ s.toList) (hqs : ∀ s ∈ qs, '/' ∉ s.toList)
    (h : (UrlPath.segments ps).text = (UrlPath.segments qs).text) : ps = qs := by
  have hp := splitOn_text hps
  rw [h, splitOn_text hqs] at hp
  exact (List.map_injective_iff.2 fun _ _ => String.toList_inj.1) (List.cons.inj hp).2.symm

end Splitting

section Segments

def written (special : Bool) (s : String) : String := Url.encoded (Url.inSegment special) s.toList

lemma reads_written (special : Bool) (s : String) : Reads (written special s) s := by
  have hset : Url.inSegment special '%' = true := by cases special <;> rfl
  rw [Reads, written, Url.encoded, Utf8.encode, String.toList_ofList, Percent.decode_encode hset,
    Utf8.decode?_flatMap_encodeChar, String.ofList_toList]

lemma Reads.eq (h : Reads e s) (h' : Reads e t) : s = t := Option.some.inj (h.symm.trans h')

lemma written_injective (special : Bool) : Function.Injective (written special) := by
  intro s t h
  have hs := reads_written special s
  rw [h] at hs
  exact hs.eq (reads_written special t)

lemma slash_not_mem_written (special : Bool) (s : String) : '/' ∉ (written special s).toList := by
  rw [written, Url.encoded, String.toList_ofList]
  intro h
  rcases Percent.mem_encode h with h | h | h
  · cases special <;> cases h
  · cases h
  · cases h

lemma eq_or_of_toLower {c d : Char} (h : c.toLower = d) :
    c = d ∨ (65 ≤ c.toNat ∧ c.toNat + 32 = d.toNat) := by
  subst h
  have hlower := Unicode.toNat_toLower c
  split_ifs at hlower with hcapital
  · exact .inr ⟨hcapital.1, hlower.symm⟩
  · exact .inl (Char.toNat_inj.1 hlower.symm)

lemma eq_of_toLower {c d : Char} (h : c.toLower = d) (hd : d.toNat < 97) : c = d := by
  rcases eq_or_of_toLower h with h | ⟨hc, hn⟩
  · exact h
  · omega

/-- Written as a dot, or as the byte of one. -/
def dots : List (List Char) := [['.'], ['%', '2', 'e']]

lemma decode_of_dot {rest : List Char} (hd : ds ∈ dots) (h : cs.map Char.toLower = ds ++ rest) :
    ∃ cs' : List Char, cs'.map Char.toLower = rest ∧
      Percent.decode (cs.flatMap Utf8.encodeChar) =
        0x2E :: Percent.decode (cs'.flatMap Utf8.encodeChar) := by
  simp only [dots, List.mem_cons, List.not_mem_nil, or_false] at hd
  rcases hd with rfl | rfl
  · obtain ⟨c, cs, rfl, hc, hrest⟩ := List.map_eq_cons_iff.1 h
    obtain rfl := eq_of_toLower hc (by decide)
    exact ⟨cs, hrest, Percent.decode_cons (by decide)⟩
  · obtain ⟨c₁, _, rfl, hc₁, h₁⟩ := List.map_eq_cons_iff.1 h
    obtain ⟨c₂, _, rfl, hc₂, h₂⟩ := List.map_eq_cons_iff.1 h₁
    obtain ⟨c₃, cs, rfl, hc₃, hrest⟩ := List.map_eq_cons_iff.1 h₂
    obtain rfl := eq_of_toLower hc₁ (by decide)
    obtain rfl := eq_of_toLower hc₂ (by decide)
    refine ⟨cs, hrest, ?_⟩
    rcases eq_or_of_toLower hc₃ with rfl | ⟨-, hn⟩
    · rfl
    · obtain rfl : c₃ = 'E' := Char.toNat_inj.1 (Nat.add_right_cancel hn)
      rfl

lemma toList_toLower (s : String) : s.toLower.toList = s.toList.map Char.toLower :=
  String.toList_map

lemma lower_of_isDot (h : isDot s = true) : s.toList.map Char.toLower ∈ dots := by
  rw [isDot, Bool.or_eq_true, decide_eq_true_eq, decide_eq_true_eq] at h
  rcases h with rfl | h
  · decide
  · rw [← toList_toLower, h]
    decide

lemma lower_of_isDoubleDot (h : isDoubleDot s = true) :
    ∃ a ∈ dots, ∃ b ∈ dots, s.toList.map Char.toLower = a ++ b := by
  rw [isDoubleDot, List.contains_iff_mem] at h
  rw [← toList_toLower]
  have hall : ∀ t ∈ ["..", ".%2e", "%2e.", "%2e%2e"], ∃ a ∈ dots, ∃ b ∈ dots, t.toList = a ++ b := by
    decide
  exact hall _ h

lemma reads_of_isDot (h : isDot s = true) : Reads s "." := by
  obtain ⟨cs, hcs, hd⟩ := decode_of_dot (lower_of_isDot h) (List.append_nil _).symm
  obtain rfl := List.map_eq_nil_iff.1 hcs
  rw [Reads, Utf8.encode, hd]
  exact Utf8.decode?_flatMap_encodeChar ['.']

lemma reads_of_isDoubleDot (h : isDoubleDot s = true) : Reads s ".." := by
  obtain ⟨a, ha, b, hb, hs⟩ := lower_of_isDoubleDot h
  obtain ⟨cs, hcs, hd⟩ := decode_of_dot ha hs
  obtain ⟨cs', hcs', hd'⟩ := decode_of_dot hb (hcs.trans (List.append_nil _).symm)
  obtain rfl := List.map_eq_nil_iff.1 hcs'
  rw [Reads, Utf8.encode, hd, hd']
  exact Utf8.decode?_flatMap_encodeChar ['.', '.']

lemma stays_written (special : Bool) (hs : Proper s) :
    isDot (written special s) = false ∧ isDoubleDot (written special s) = false := by
  constructor <;> rw [← Bool.not_eq_true] <;> intro h
  · exact hs (by simp [(reads_written special s).eq (reads_of_isDot h)])
  · exact hs (by simp [(reads_written special s).eq (reads_of_isDoubleDot h)])

end Segments

section Pushing

/-- The text without the characters that locators leave out. -/
def stripped (s : String) : String := String.ofList (s.toList.filter (!isTabOrNewline ·))

lemma stripped_eq_self_iff : stripped s = s ↔ Plain s := by
  rw [stripped, ← String.toList_inj, String.toList_ofList, List.filter_eq_self, Plain]
  simp only [Bool.not_eq_true']

/-- What another segment is put behind: an empty segment that is alone counts for nothing. -/
def opened (ps : List String) : List String := if ps = [""] then [] else ps

lemma push_eq (special : Bool) (ps : List String) (s : String) :
    push special ps s = close (opened ps).reverse (written special (stripped s)) := by
  have habove : (if ps = [""] then [] else ps.reverse) = (opened ps).reverse := by
    rw [opened]
    split <;> rfl
  rw [push, habove, written, stripped, String.toList_ofList]

lemma push_of_plain (special : Bool) (ps : List String) (hs : Plain s) (hp : Proper s) :
    push special ps s = opened ps ++ [written special s] := by
  obtain ⟨hdot, hdouble⟩ := stays_written special hp
  rw [push_eq, stripped_eq_self_iff.2 hs, close, hdot, hdouble, if_neg Bool.false_ne_true,
    if_neg Bool.false_ne_true, List.reverse_cons, List.reverse_reverse]

lemma reverse_cons_eq_append (h : (s :: above).reverse = ps ++ [e]) : above.reverse = ps ∧ s = e := by
  rw [List.reverse_cons] at h
  obtain ⟨habove, hs⟩ := List.append_inj' h rfl
  exact ⟨habove, List.head_eq_of_cons_eq hs⟩

/-- An end that is not empty was neither dropped nor put above. -/
lemma of_close (h : close above s = ps ++ [e]) (he : e ≠ "") : above.reverse = ps ∧ s = e := by
  unfold close at h
  split at h
  · exact absurd (reverse_cons_eq_append h).2.symm he
  · split at h
    · exact absurd (reverse_cons_eq_append h).2.symm he
    · exact reverse_cons_eq_append h

lemma Reads.ne_empty (h : Reads e s) (hs : s ≠ "") : e ≠ "" := by
  rintro rfl
  have hempty : Reads "" "" := Utf8.decode?_flatMap_encodeChar []
  exact hs (h.eq hempty)

lemma of_push (h : push special ps s = qs ++ [e]) (hqs : qs ≠ []) (he : Reads e s) (hs : s ≠ "") :
    ps = qs ∧ Plain s := by
  rw [push_eq] at h
  obtain ⟨habove, hw⟩ := of_close h (he.ne_empty hs)
  rw [List.reverse_reverse] at habove
  have hplain : stripped s = s := by
    rw [← hw] at he
    exact (reads_written special _).eq he
  refine ⟨?_, stripped_eq_self_iff.1 hplain⟩
  rw [opened] at habove
  split at habove
  · exact absurd habove.symm hqs
  · exact habove

lemma foldl_push (special : Bool) (hparts : ∀ s ∈ parts, Proper s ∧ Plain s) (hps : ps ≠ [] ∧ ps ≠ [""]) :
    parts.foldl (push special) ps = ps ++ parts.map (written special) := by
  induction parts generalizing ps with
  | nil => rw [List.foldl_nil, List.map_nil, List.append_nil]
  | cons s parts ih =>
    obtain ⟨⟨hproper, hplain⟩, hparts⟩ := List.forall_mem_cons.1 hparts
    rw [List.foldl_cons, push_of_plain special ps hplain hproper, opened, if_neg hps.2, ih hparts,
      List.map_cons, List.append_assoc, List.singleton_append]
    refine ⟨by simp, fun h => hps.1 ?_⟩
    exact (List.append_inj' (h.trans (List.nil_append [""]).symm) rfl).1

lemma of_foldl_push (h : parts.foldl (push special) ps = qs ++ segments) (hqs : qs ≠ [])
    (hs : List.Forall₂ (fun part segment => Reads segment part) parts segments)
    (hparts : ∀ s ∈ parts, Proper s) : ps = qs ∧ ∀ s ∈ parts, Plain s := by
  induction hs generalizing ps qs with
  | nil => exact ⟨h.trans (List.append_nil _), fun s hs => by cases hs⟩
  | @cons s e parts segments he hs ih =>
    obtain ⟨hproper, hparts⟩ := List.forall_mem_cons.1 hparts
    have hrest : parts.foldl (push special) (push special ps s) = qs ++ [e] ++ segments := by
      simpa using h
    obtain ⟨hpush, hplain⟩ := ih hrest (by simp) hparts
    obtain ⟨rfl, hs⟩ := of_push hpush hqs he fun hs => hproper (by simp [hs])
    exact ⟨rfl, List.forall_mem_cons.2 ⟨hs, hplain⟩⟩

lemma written_objects (special : Bool) : written special "objects" = "objects" := by
  cases special <;> rfl

lemma opened_popEmpty_iff : opened (popEmpty segments) = directory segments ↔ segments ≠ ["", ""] := by
  by_cases hlast : segments.getLast? = some ""
  · obtain ⟨front, rfl⟩ := List.getLast?_eq_some_iff.1 hlast
    cases front with
    | nil => decide
    | cons s front =>
      have hpop : popEmpty (s :: front ++ [""]) = s :: front := by
        rw [popEmpty, if_pos ⟨by simp, hlast⟩, List.dropLast_concat]
      have hdir : directory (s :: front ++ [""]) = s :: front := by
        rw [directory, if_pos hlast, List.dropLast_concat]
      rw [hpop, hdir, opened]
      by_cases h : s :: front = [""]
      · simp [h]
      · rw [if_neg h]
        exact iff_of_true rfl fun heq => h (List.append_inj' heq rfl).1
  · have hpop : popEmpty segments = segments := if_neg fun h => hlast h.2
    have hdir : directory segments = segments := if_neg hlast
    have hne : ∀ front, segments ≠ front ++ [""] := by
      rintro front rfl
      exact hlast List.getLast?_concat
    rw [hpop, hdir, opened, if_neg (show segments ≠ [""] from hne [])]
    exact iff_of_true rfl (hne [""])

lemma push_objects (special : Bool) (segments : List String) :
    push special (popEmpty segments) "objects" = opened (popEmpty segments) ++ ["objects"] := by
  rw [push_of_plain special _ (by decide) (by decide), written_objects]

end Pushing

end UrlPath

namespace Url

lemma authority_append (u : Url) {ps qs qs' : List String} (hps : ps ≠ []) (hqs : qs ≠ [])
    (hqs' : qs' ≠ []) : { u with path := .segments (ps ++ qs) : Url }.authority =
      { u with path := .segments (ps ++ qs') : Url }.authority := by
  obtain ⟨p, ps, rfl⟩ := List.exists_cons_of_ne_nil hps
  obtain ⟨a, l, hl⟩ := List.exists_cons_of_ne_nil (List.append_ne_nil_of_right_ne_nil ps hqs)
  obtain ⟨a', l', hl'⟩ := List.exists_cons_of_ne_nil (List.append_ne_nil_of_right_ne_nil ps hqs')
  simp only [List.cons_append, hl, hl', authority]
  cases u.host with
  | some host => rfl
  | none =>
    by_cases hp : p = ""
    · subst hp
      rfl
    · simp [hp]

lemma text_of_text_append (u : Url) {ps qs qs' : List String} (hps : ps ≠ []) (hqs : qs ≠ [])
    (hqs' : qs' ≠ []) (h : { u with path := .segments (ps ++ qs) : Url }.text =
      { u with path := .segments (ps ++ qs') : Url }.text) :
    (UrlPath.segments qs).text = (UrlPath.segments qs').text := by
  simpa [text, authority_append u hps hqs hqs', UrlPath.text_append] using h

end Url

end TypedPid

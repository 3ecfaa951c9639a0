import ImportOrder.Proofs.Markup.Attribute
import ImportOrder.Proofs.Markup.Region
import Mathlib.Data.List.Forall2

/-!
# ImportOrder.Proofs.Markup.Document

Documents put together from texts, comments and scripts. The main statement is `regions_document`:
the search finds exactly the scripts of such a document, in order, with the contents, the places and
the attributes that they were written with.

The proof goes segment by segment. Each kind of segment has one lemma on what the search does from
its start on; a text may end in the beginning of an opening tag, so its lemma needs to know that what
follows is nothing or a `<`, which can not continue one.
-/

namespace ImportOrder
namespace Markup

open Text

/-! ## Documents -/

def commentStart : List Char := ['<', '!', '-', '-']

/-- A script's opening tag up to the character behind its name stands at the start of the text. -/
def OpensScript (s : List Char) : Prop :=
  ∃ name c rest, s = '<' :: (name ++ c :: rest) ∧ sameIgnoringCase name scriptWord = true ∧
    c ∈ [' ', '\t', '\n', '\r', '>', '/']

/-- A text in which neither a comment nor a script begins. -/
structure Plain where
  text : List Char
  no_comment : ∀ s, s <:+ text → ¬ commentStart <+: s
  no_script : ∀ s, s <:+ text → ¬ OpensScript s

structure Remark where
  body : List Char
  closes_once : ¬ commentEnd <:+: body

structure Script where
  attributes : List Written
  content : List Char
  enclosed : Enclosed content

namespace Script

def opening (x : Script) : List Char :=
  '<' :: (scriptWord ++ (tagText x.attributes ++ ['>']))

def text (x : Script) : List Char :=
  x.opening ++ (x.content ++ (closingTag ++ ['>']))

/-- The value that a name has in the script's tag: the last one written. -/
def value? (x : Script) (name : List Char) : Option (List Char) :=
  valueOf? (x.attributes.map Written.toAttribute) name

end Script

inductive Segment where
  | text (t : Plain)
  | comment (r : Remark)
  | script (x : Script)

namespace Segment

def render : Segment → List Char
  | .text t => t.text
  | .comment r => commentStart ++ (r.body ++ commentEnd)
  | .script x => x.text

def IsText : Segment → Prop
  | .text _ => True
  | _ => False

end Segment

/-- Segments of which no two neighbours are texts. -/
structure Document where
  segments : List Segment
  apart : segments.IsChain fun a b => ¬ (a.IsText ∧ b.IsText)

def render (segments : List Segment) : List Char :=
  segments.flatMap Segment.render

/-- The scripts among segments that start at byte offset `pos`, each with the offset of its
content. -/
def scriptsFrom (pos : Nat) : List Segment → List (Nat × Script)
  | [] => []
  | .script x :: more => (pos + size x.opening, x) :: scriptsFrom (pos + size x.text) more
  | g :: more => scriptsFrom (pos + size g.render) more

namespace Document

def text (d : Document) : List Char :=
  render d.segments

def scripts (d : Document) : List (Nat × Script) :=
  scriptsFrom 0 d.segments

end Document

/-- The region is the script `x`, with its content from byte offset `start` on. -/
structure Region.IsScript (r : Region) (start : Nat) (x : Script) : Prop where
  content : r.content = x.content
  start_eq : r.start = start
  stop_eq : r.stop = start + size x.content
  names_nodup : (r.attributes.map (·.name)).Nodup
  mem_attributes : ∀ name value,
    (⟨name, value⟩ : Attribute) ∈ r.attributes ↔ x.value? name = some value
  role_iff : r.role = .moduleLevel ↔ ∃ name value, x.value? name = some value ∧
    (sameIgnoringCase name "module".toList = true ∨
      sameIgnoringCase name "context".toList = true ∧
        sameIgnoringCase (trim value) "module".toList = true)

/-! ## Texts -/

/-- A word that stands at the start of two texts put together stands in the first of them, if the
second can not continue it. -/
theorem prefix_left {w t rest : List Char} (h : w <+: t ++ rest)
    (hrest : ∀ c, rest.head? = some c → c ∉ w) : w <+: t := by
  obtain ⟨back, hback⟩ := h
  rcases List.append_eq_append_iff.1 hback with ⟨u, ht, -⟩ | ⟨u, hw, hu⟩
  · exact ⟨u, ht.symm⟩
  · cases u with
    | nil =>
      rw [List.append_nil] at hw
      exact hw ▸ List.prefix_refl w
    | cons c u =>
      refine absurd ?_ (hrest c (by rw [hu]; rfl))
      rw [hw]
      simp

theorem endsTagName_iff {c : Char} :
    endsTagName c = true ↔ c ∈ [' ', '\t', '\n', '\r', '>', '/'] := by
  simp [endsTagName, or_assoc]

/-- Folding never makes a `<`, so the name of a tag does not hold one. -/
theorem opening_not_mem {name : List Char} (h : sameIgnoringCase name scriptWord = true) :
    '<' ∉ name := by
  intro hmem
  have hfold : Char.toLower '<' ∈ name.map Char.toLower := List.mem_map_of_mem hmem
  rw [beq_iff_eq.1 h] at hfold
  exact absurd hfold (by decide)

section Plain

variable {t rest : List Char} (hrest : ∀ c, rest.head? = some c → c = '<')

include hrest

theorem commentBody?_append (h : ¬ commentStart <+: '<' :: t) : commentBody? (t ++ rest) = none := by
  cases hbody : commentBody? (t ++ rest) with
  | none => rfl
  | some inside =>
    have heq : t ++ rest = ['!', '-', '-'] ++ inside := dropWord?_eq_some hbody
    have hfront : ['!', '-', '-'] <+: t ++ rest := ⟨inside, heq.symm⟩
    have hleft : ['!', '-', '-'] <+: t := by
      refine prefix_left hfront ?_
      intro c hc
      rw [hrest c hc]
      decide
    exact absurd (List.cons_prefix_cons.2 ⟨rfl, hleft⟩) h

theorem scriptTag?_eq_none_of_append (h : ¬ OpensScript ('<' :: t)) :
    scriptTag? (t ++ rest) = none := by
  cases htag : scriptTag? (t ++ rest) with
  | none => rfl
  | some tag =>
    obtain ⟨name, heq, -, hname, hends⟩ := scriptTag?_eq_some htag
    cases tag with
    | nil => cases hends
    | cons c tag =>
      have hc : endsTagName c = true := hends
      have hfront : name ++ [c] <+: t ++ rest := ⟨tag, by rw [heq]; simp⟩
      have hleft : name ++ [c] <+: t := by
        refine prefix_left hfront ?_
        intro x hx hmem
        rw [hrest x hx] at hmem
        rcases List.mem_append.1 hmem with hmem | hmem
        · exact opening_not_mem hname hmem
        · rw [← List.mem_singleton.1 hmem] at hc
          exact absurd hc (by decide)
      obtain ⟨back, hback⟩ := hleft
      exact absurd ⟨name, c, back, by rw [← hback]; simp, hname, endsTagName_iff.1 hc⟩ h

/-- Before the end or before a `<`, the search passes over a plain text. -/
theorem regionsFrom_plain (pos : Nat) (hcomment : ∀ s, s <:+ t → ¬ commentStart <+: s)
    (hscript : ∀ s, s <:+ t → ¬ OpensScript s) :
    regionsFrom pos (t ++ rest) = regionsFrom (pos + size t) rest := by
  induction t generalizing pos with
  | nil => rfl
  | cons c t ih =>
    have hmore := ih (pos + c.utf8Size)
      (fun s hs => hcomment s (hs.trans (List.suffix_cons c t)))
      (fun s hs => hscript s (hs.trans (List.suffix_cons c t)))
    have hpos : pos + c.utf8Size + size t = pos + size (c :: t) := by rw [size_cons, Nat.add_assoc]
    rw [hpos] at hmore
    by_cases hc : c = '<'
    · subst hc
      have hself := List.suffix_refl ('<' :: t)
      have hstep : stepAt pos (t ++ rest) = .goOn (pos + 1) (t ++ rest) := by
        rw [stepAt, commentBody?_append hrest (hcomment _ hself),
          scriptTag?_eq_none_of_append hrest (hscript _ hself)]
      rw [List.cons_append, regionsFrom_of_goOn hstep]
      exact hmore
    · rw [List.cons_append, regionsFrom_of_ne (by simpa using hc)]
      exact hmore

end Plain

/-! ## Comments -/

/-- A comment ends where it is closed for the first time. The end can not begin inside the body and
go on behind it: its second character is not its third. -/
theorem splitAtWord?_commentEnd {body : List Char} (h : ¬ commentEnd <:+: body) (rest : List Char) :
    splitAtWord? commentEnd (body ++ (commentEnd ++ rest)) = some (body, rest) := by
  induction body with
  | nil => simp [splitAtWord?, commentEnd, dropWord?]
  | cons c body ih =>
    have hnone : dropWord? commentEnd (c :: (body ++ (commentEnd ++ rest))) = none := by
      cases hdrop : dropWord? commentEnd (c :: (body ++ (commentEnd ++ rest))) with
      | none => rfl
      | some tail =>
        have heq := dropWord?_eq_some hdrop
        cases body with
        | nil => simp [commentEnd] at heq
        | cons d body =>
          cases body with
          | nil => simp [commentEnd] at heq
          | cons e body =>
            refine absurd ?_ h
            simp only [commentEnd, List.cons_append, List.nil_append, List.cons.injEq] at heq
            obtain ⟨rfl, rfl, rfl, -⟩ := heq
            exact ⟨[], body, rfl⟩
    have hmore := ih fun hin => h (hin.trans (List.suffix_cons c body).isInfix)
    rw [List.cons_append, splitAtWord?, hnone, hmore]
    rfl

theorem regionsFrom_comment (r : Remark) (pos : Nat) (rest : List Char) :
    regionsFrom pos ((Segment.comment r).render ++ rest) =
      regionsFrom (pos + size (Segment.comment r).render) rest := by
  have hbody : commentBody? (['!', '-', '-'] ++ (r.body ++ (commentEnd ++ rest))) =
      some (r.body ++ (commentEnd ++ rest)) := dropWord?_append _ _
  have hstep : stepAt pos (['!', '-', '-'] ++ (r.body ++ (commentEnd ++ rest))) =
      .goOn (pos + 4 + size r.body + 3) rest := by
    rw [stepAt, hbody]
    simp only [splitAtWord?_commentEnd r.closes_once]
  have hsize : pos + size (Segment.comment r).render = pos + 4 + size r.body + 3 := by
    have hstart : size commentStart = 4 := rfl
    have hend : size commentEnd = 3 := rfl
    rw [Segment.render, size_append, size_append, hstart, hend]
    omega
  have htext : (Segment.comment r).render ++ rest =
      '<' :: (['!', '-', '-'] ++ (r.body ++ (commentEnd ++ rest))) := by
    simp [Segment.render, commentStart]
  rw [htext, regionsFrom_of_goOn hstep, hsize]

/-! ## Scripts -/

theorem splitTag?_value (v : WrittenValue) (s : List Char) :
    splitTag? none (v.text ++ s) =
      (splitTag? none s).map fun (text, rest) => (v.text ++ text, rest) := by
  cases v with
  | bare => simp [WrittenValue.text]
  | quoted quote text isQuote unquoted =>
    have hgt : quote ≠ '>' := by rcases isQuote with rfl | rfl <;> decide
    have hquote : (quote = '"' || quote = '\'') = true := by rcases isQuote with rfl | rfl <;> rfl
    have hopen : splitTag? none (quote :: (text ++ quote :: s)) =
        (splitTag? none s).map fun (t, rest) => (quote :: (text ++ quote :: t), rest) := by
      rw [splitTag?]
      simp only [hgt, hquote, if_false, if_true]
      rw [splitTag?_quoted unquoted, Option.map_map]
      rfl
    have heq := splitTag?_plain (p := ['=']) (by simp) (quote :: (text ++ quote :: s))
    rw [hopen, Option.map_map] at heq
    simpa [WrittenValue.text, Function.comp_def] using heq

theorem splitTag?_written (ws : List Written) (rest : List Char) :
    splitTag? none (tagText ws ++ '>' :: rest) = some (tagText ws, rest) := by
  induction ws with
  | nil => simp [tagText, splitTag?]
  | cons w ws ih =>
    have hname : ∀ c ∈ ' ' :: w.name, c ≠ '>' ∧ c ≠ '"' ∧ c ≠ '\'' := by
      intro c hc
      rcases List.mem_cons.1 hc with rfl | hc
      · decide
      · obtain ⟨-, -, -, hdouble, hsingle, hgt⟩ := w.name_plain c hc
        exact ⟨hgt, hdouble, hsingle⟩
    have hsplit := splitTag?_plain hname (w.written.text ++ (tagText ws ++ '>' :: rest))
    rw [splitTag?_value, ih] at hsplit
    simpa [tagText_cons] using hsplit

/-- No written attribute ends in a slash, so their tag is not closed by `/>`. -/
theorem getLast?_tagText (ws : List Written) : (tagText ws).getLast? ≠ some '/' := by
  induction ws with
  | nil => simp [tagText]
  | cons w ws ih =>
    intro hlast
    rw [tagText_cons] at hlast
    by_cases hmore : tagText ws = []
    · rw [hmore, List.append_nil] at hlast
      cases hwritten : w.written with
      | bare =>
        rw [hwritten, WrittenValue.text, List.append_nil] at hlast
        have hmem := List.mem_of_getLast? hlast
        rcases List.mem_cons.1 hmem with hspace | hname
        · exact absurd hspace (by decide)
        · exact (w.name_plain '/' hname).2.2.1 rfl
      | quoted quote text isQuote unquoted =>
        have hend : ' ' :: (w.name ++ WrittenValue.text (.quoted quote text isQuote unquoted)) =
            (' ' :: (w.name ++ '=' :: quote :: text)) ++ [quote] := by
          simp [WrittenValue.text]
        rw [hwritten, hend, List.getLast?_concat, Option.some.injEq] at hlast
        rcases isQuote with rfl | rfl
        · exact absurd hlast (by decide)
        · exact absurd hlast (by decide)
    · have hend : ' ' :: (w.name ++ (w.written.text ++ tagText ws)) =
          (' ' :: (w.name ++ w.written.text)) ++ tagText ws := by simp
      rw [hend, List.getLast?_append_of_ne_nil _ hmore] at hlast
      exact ih hlast

/-- A region read from a script's tag and content. -/
def Script.region (x : Script) (start : Nat) : Region :=
  ⟨x.content, start, trim (tagText x.attributes),
    lastValues (x.attributes.map Written.toAttribute)⟩

theorem Script.isScript_region (x : Script) (start : Nat) :
    (x.region start).IsScript start x where
  content := rfl
  start_eq := rfl
  stop_eq := rfl
  names_nodup := nodup_lastValues _
  mem_attributes := mem_lastValues _
  role_iff := by
    have hrole : (x.region start).role = .moduleLevel ↔
        ∃ a ∈ (x.region start).attributes, Region.isModuleMark a = true := by
      rw [← List.any_eq_true, Region.role]
      split
      · rename_i h
        simp [h]
      · rename_i h
        simp [h]
    rw [hrole]
    constructor
    · rintro ⟨a, ha, hmark⟩
      refine ⟨a.name, a.value, (mem_lastValues _ a.name a.value).1 ha, ?_⟩
      simpa [Region.isModuleMark] using hmark
    · rintro ⟨name, value, hvalue, hmark⟩
      exact ⟨⟨name, value⟩, (mem_lastValues _ name value).2 hvalue, by
        simpa [Region.isModuleMark] using hmark⟩

theorem size_opening (x : Script) : size x.opening = 7 + size (tagText x.attributes) + 1 := by
  have hname : size scriptWord = 6 := rfl
  have hlt : '<'.utf8Size = 1 := rfl
  have hgt : '>'.utf8Size = 1 := rfl
  simp only [Script.opening, size_cons, size_append, size_nil, hname, hlt, hgt]
  omega

theorem element?_script (x : Script) (start : Nat) (rest : List Char) :
    element? (tagText x.attributes) start (x.content ++ (closingTag ++ '>' :: rest)) =
      some ⟨x.region start, rest, start + size x.content + size (closingTag ++ ['>'])⟩ := by
  have hstands : standsAt Char.toLower closingTag (closingTag ++ '>' :: rest) = true := by
    rw [standsAt_iff, List.take_left]
  have hclose : splitAtChar? '>' (closingTag ++ '>' :: rest) = some (closingTag, rest) :=
    splitAtChar?_append (by decide) rest
  have hgt : '>'.utf8Size = 1 := rfl
  rw [element?, find?_closingTag x.enclosed hstands]
  simp only [List.take_left, List.drop_left, hclose, Region.stop, readAttributes_written,
    Script.region, size_append, size_cons, size_nil, hgt, Nat.add_assoc]

theorem regionsFrom_script (x : Script) (pos : Nat) (rest : List Char) :
    regionsFrom pos (x.text ++ rest) =
      x.region (pos + size x.opening) :: regionsFrom (pos + size x.text) rest := by
  have hends : (tagText x.attributes ++ '>' :: (x.content ++ (closingTag ++ '>' :: rest))).head?.any
      endsTagName = true := by
    cases x.attributes with
    | nil => rfl
    | cons w ws => rw [tagText_cons]; rfl
  have htag : scriptTag? (scriptWord ++
      (tagText x.attributes ++ '>' :: (x.content ++ (closingTag ++ '>' :: rest)))) =
      some (tagText x.attributes ++ '>' :: (x.content ++ (closingTag ++ '>' :: rest))) :=
    scriptTag?_append rfl rfl hends
  have hstart : pos + 7 + size (tagText x.attributes) + 1 = pos + size x.opening := by
    rw [size_opening]
    omega
  have hstep : stepAt pos (scriptWord ++
      (tagText x.attributes ++ '>' :: (x.content ++ (closingTag ++ '>' :: rest)))) =
      .found ⟨x.region (pos + size x.opening), rest, pos + size x.text⟩ := by
    have hcomment : commentBody? (scriptWord ++
        (tagText x.attributes ++ '>' :: (x.content ++ (closingTag ++ '>' :: rest)))) = none := rfl
    have hstop : pos + size x.opening + size x.content + size (closingTag ++ ['>']) =
        pos + size x.text := by
      simp only [Script.text, size_append]
      omega
    rw [stepAt, hcomment]
    simp only [htag, splitTag?_written, if_neg (getLast?_tagText x.attributes), hstart,
      element?_script, hstop]
  have htext : x.text ++ rest = '<' :: (scriptWord ++
      (tagText x.attributes ++ '>' :: (x.content ++ (closingTag ++ '>' :: rest)))) := by
    simp [Script.text, Script.opening]
  rw [htext, regionsFrom_of_found hstep]

/-! ## Whole documents -/

theorem render_cons (g : Segment) (more : List Segment) :
    render (g :: more) = g.render ++ render more := by
  simp [render]

theorem head?_render_behind_text {t : Plain} {more : List Segment}
    (h : (Segment.text t :: more).IsChain fun a b => ¬ (a.IsText ∧ b.IsText)) :
    ∀ c, (render more).head? = some c → c = '<' := by
  intro c hc
  cases more with
  | nil => simp [render] at hc
  | cons g more =>
    rw [render_cons] at hc
    cases g with
    | text u =>
      have hapart := (List.isChain_cons_cons.1 h).1
      exact absurd ⟨trivial, trivial⟩ hapart
    | comment r =>
      simp only [Segment.render, commentStart, List.cons_append, List.head?_cons,
        Option.some.injEq] at hc
      exact hc.symm
    | script x =>
      simp only [Segment.render, Script.text, Script.opening, List.cons_append, List.head?_cons,
        Option.some.injEq] at hc
      exact hc.symm

/-- From the start of segments on, the search finds their scripts. -/
theorem regionsFrom_render (pos : Nat) (segments : List Segment)
    (h : segments.IsChain fun a b => ¬ (a.IsText ∧ b.IsText)) :
    regionsFrom pos (render segments) =
      (scriptsFrom pos segments).map fun (start, x) => x.region start := by
  induction segments generalizing pos with
  | nil => simp [render, regionsFrom, scriptsFrom]
  | cons g more ih =>
    have hmore := fun next => ih next h.of_cons
    rw [render_cons]
    cases g with
    | text t =>
      rw [Segment.render, regionsFrom_plain (head?_render_behind_text h) pos t.no_comment t.no_script,
        hmore]
      rfl
    | comment r =>
      rw [regionsFrom_comment, hmore]
      rfl
    | script x =>
      rw [Segment.render, regionsFrom_script, hmore]
      rfl

/-- The regions of a document are its scripts: the same number of them in the same order, each with
its content, its place, its attributes by name and its role. -/
theorem regions_document (d : Document) :
    List.Forall₂ (fun r (p : Nat × Script) => r.IsScript p.1 p.2) (regions d.text) d.scripts := by
  rw [regions, Document.text, Document.scripts, regionsFrom_render 0 d.segments d.apart,
    List.forall₂_map_left_iff]
  exact List.forall₂_same.2 fun p _ => p.2.isScript_region p.1

end Markup
end ImportOrder

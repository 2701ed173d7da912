import Mathlib.Data.List.Nodup
import Tagline.Proofs.Yaml.FlatDocument
import Tagline.Settings

/-!
# Settings in writing

Settings that are given one by one can be written down as a YAML mapping, one on a line: a truth
value as a word, and the prefix of the names in single quotes. Reading the mapping gives the settings
that the changes make, if none is about the same as another, and an error otherwise.

The prefix may be any printable text of the basic range. In quotes it is not taken for a comment, a
mapping, a number or a truth value, whatever it looks like, and the blanks at its ends stay.

* `Setting.ofEntries_entry` — one line is read as the setting on it, or it repeats a key;
* `Setting.ofEntries_entries` — so the lines are read as a list of settings, or a key is repeated;
* `Settings.ofYaml_lines` — and the text means what the changes mean.
-/

namespace Tagline

namespace Setting

/-! ### Settings as lines -/

/-- A setting with a printable text. -/
def Printable : Setting → Prop
  | .namePrefix text => ∀ c ∈ text, Yaml.Flat.isPrintable c = true
  | _ => True

instance : DecidablePred Printable
  | .namePrefix text =>
    decidable_of_iff (text.all Yaml.Flat.isPrintable = true) (by simp [Printable])
  | .resolveFragments _ => inferInstanceAs (Decidable True)
  | .stripIndent _ => inferInstanceAs (Decidable True)
  | .skipBlankLines _ => inferInstanceAs (Decidable True)

/-- The value of a setting in writing. Inside the quotes every quote is written twice. -/
def valueText : Setting → Text
  | .namePrefix text => '\'' :: (Yaml.Flat.doubled text ++ ['\''])
  | .resolveFragments on => Yaml.boolText on
  | .stripIndent on => Yaml.boolText on
  | .skipBlankLines on => Yaml.boolText on

/-- The line of a setting. -/
def line (s : Setting) : Text := s.key.name ++ ": ".toList ++ s.valueText

/-- A truth value as a word. -/
def truthWord (on : Bool) : Yaml.Flat.Scalar := .word (Yaml.boolText on) (by cases on <;> decide)

/-- The value of a setting as that of an entry. -/
def scalar : (s : Setting) → s.Printable → Yaml.Flat.Scalar
  | .namePrefix text, h => .quoted text h
  | .resolveFragments on, _ => truthWord on
  | .stripIndent on, _ => truthWord on
  | .skipBlankLines on, _ => truthWord on

theorem isWord_name (k : Key) : Yaml.Flat.IsWord k.name := by
  cases k <;> decide

theorem byteLength_name_le (k : Key) : Yaml.byteLength k.name ≤ 1024 := by
  cases k <;> decide

/-- A setting as an entry of a flat mapping. -/
def entry (s : Setting) (h : s.Printable) : Yaml.Flat.Entry where
  key := s.key.name
  word := isWord_name s.key
  short := byteLength_name_le s.key
  value := s.scalar h

theorem line_entry (s : Setting) (h : s.Printable) : (s.entry h).line = s.line := by
  have hsource : (s.scalar h).source = s.valueText := by
    cases s <;> rfl
  show s.key.name ++ ':' :: ' ' :: (s.scalar h).source = s.key.name ++ [':', ' '] ++ s.valueText
  rw [hsource, List.append_assoc]
  rfl

/-! ### Reading the lines -/

theorem ofName?_name (k : Key) : Key.ofName? k.name = some k := by
  cases k <;> decide

theorem ofNode_entry (d : Yaml.Document) (s : Setting) (h : s.Printable) :
    ofNode d (s.entry h).nodes.2 s.key = .ok s := by
  cases s with
  | namePrefix text => rfl
  | resolveFragments on => cases on <;> rfl
  | stripIndent on => cases on <;> rfl
  | skipBlankLines on => cases on <;> rfl

/-- **One line** is the setting that was written on it, unless its key has been seen. -/
theorem ofEntries_entry (d : Yaml.Document) (seen : List Key) (s : Setting) (h : s.Printable)
    (es : List (Yaml.Node × Yaml.Node)) :
    ofEntries d seen ((s.entry h).nodes :: es) =
      if s.key ∈ seen then .error .duplicateKey
      else (ofEntries d (s.key :: seen) es).map (s :: ·) := by
  have hname := ofName?_name s.key
  have hnode := ofNode_entry d s h
  show ofEntries d seen ((.scalar none .plain s.key.name, (s.entry h).nodes.2) :: es) = _
  rw [ofEntries]
  dsimp only [Yaml.Document.text, Yaml.Document.target, bind, Except.bind]
  rw [hname]
  dsimp only
  rw [hnode]
  by_cases hmem : s.key ∈ seen
  · rw [if_pos hmem, if_pos (List.contains_iff_mem.2 hmem)]
  · rw [if_neg hmem, if_neg (mt List.contains_iff_mem.1 hmem)]
    cases ofEntries d (s.key :: seen) es <;> rfl

/-- **All lines** are the settings that were written on them, unless two are about the same or one
is about something that was seen before. -/
theorem ofEntries_entries (d : Yaml.Document) {seen : List Key} (hseen : seen.Nodup)
    {ss : List Setting} (hss : ∀ s ∈ ss, s.Printable) :
    ofEntries d seen ((ss.pmap entry hss).map Yaml.Flat.Entry.nodes) =
      if (ss.map key ++ seen).Nodup then .ok ss else .error .duplicateKey := by
  induction ss generalizing seen with
  | nil =>
    rw [List.map_nil, List.nil_append, if_pos hseen]
    rfl
  | cons s ss ih =>
    rw [List.pmap_cons, List.map_cons, ofEntries_entry]
    by_cases hmem : s.key ∈ seen
    · have hdup : ¬ ((s :: ss).map key ++ seen).Nodup := by
        intro hnodup
        exact (List.nodup_cons.1 hnodup).1 (List.mem_append_right _ hmem)
      rw [if_pos hmem, if_neg hdup]
    · -- the key has been seen now, and the other lines must avoid it
      have hmiddle : (ss.map key ++ s.key :: seen).Nodup ↔ ((s :: ss).map key ++ seen).Nodup :=
        List.nodup_middle
      rw [if_neg hmem, ih (List.nodup_cons.2 ⟨hmem, hseen⟩)]
      by_cases hnodup : ((s :: ss).map key ++ seen).Nodup
      · rw [if_pos hnodup, if_pos (hmiddle.2 hnodup)]
        rfl
      · rw [if_neg hnodup, if_neg (mt hmiddle.1 hnodup)]
        rfl

end Setting

namespace Settings

/-- The text of some settings is that of a flat mapping. -/
theorem text_entries {ss : List Setting} (hss : ∀ s ∈ ss, s.Printable) (hne : ss ≠ [])
    (last : Text) :
    Text.joinLines (ss.map Setting.line) ++ last =
      Yaml.Flat.text last (ss.pmap Setting.entry hss) := by
  have hlines : (ss.pmap Setting.entry hss).map Yaml.Flat.Entry.line = ss.map Setting.line := by
    rw [List.map_pmap, ← List.pmap_eq_map hss]
    exact List.pmap_congr_left ss fun s _ h _ => s.line_entry h
  rw [← hlines]
  exact Yaml.Flat.joinLines_append last (by simpa using hne)

/-- **Settings are read as they are written.** Changes that are each about something else, in any
order and with or without a feed behind the last line, make of the default settings what their
lines say; all else keeps its default. Where two are about the same, the text is rejected. -/
theorem ofYaml_lines {ss : List Setting} (hss : ∀ s ∈ ss, s.Printable) {last : Text}
    (hlast : last = [] ∨ last = ['\n']) :
    ofYaml (Text.joinLines (ss.map Setting.line) ++ last) =
      if (ss.map Setting.key).Nodup then .ok (ofList ss) else .error .duplicateKey := by
  by_cases hne : ss = []
  · -- a text of blanks is not read at all
    subst hne
    rcases hlast with rfl | rfl <;> rfl
  · have hes : ss.pmap Setting.entry hss ≠ [] := by simpa using hne
    have hentries := Setting.ofEntries_entries
      ⟨some (.mapping none ((ss.pmap Setting.entry hss).map Yaml.Flat.Entry.nodes)), []⟩
      List.nodup_nil hss
    rw [List.append_nil] at hentries
    rw [text_entries hss hne]
    unfold ofYaml
    rw [if_neg (Bool.eq_false_iff.1 (Yaml.Flat.allBlank_text last hes)),
      Yaml.Flat.document_text hlast hes]
    show (Setting.ofEntries _ [] ((ss.pmap Setting.entry hss).map Yaml.Flat.Entry.nodes) >>= _) = _
    rw [hentries]
    by_cases hnodup : (ss.map Setting.key).Nodup
    · rw [if_pos hnodup, if_pos hnodup]
      rfl
    · rw [if_neg hnodup, if_neg hnodup]
      rfl

/-- A prefix that looks like an entry with a comment behind it, and a key that comes again. -/
theorem ofYaml_lines_sample :
    let ss : List Setting :=
      [.skipBlankLines false, .namePrefix " 'a': # true ".toList, .resolveFragments true]
    let repeated := ss ++ [.skipBlankLines false]
    (∀ s ∈ repeated, s.Printable) ∧
      (ss.map Setting.key).Nodup ∧ ¬ (repeated.map Setting.key).Nodup ∧
      ofYaml "skip_blank_lines: false\nprefix: ' ''a'': # true '\ncompile_text: true\n".toList =
        .ok ⟨" 'a': # true ".toList, true, true, false⟩ ∧
      ofYaml (Text.joinLines (repeated.map Setting.line) ++ []) = .error .duplicateKey := by
  intro ss repeated
  have hrepeated : ∀ s ∈ repeated, s.Printable := by decide
  have hss : ∀ s ∈ ss, s.Printable := by decide
  have hnodup : (ss.map Setting.key).Nodup := by decide
  have hdup : ¬ (repeated.map Setting.key).Nodup := by decide
  have htext : "skip_blank_lines: false\nprefix: ' ''a'': # true '\ncompile_text: true\n".toList =
      Text.joinLines (ss.map Setting.line) ++ ['\n'] := by decide
  refine ⟨hrepeated, hnodup, hdup, ?_, ?_⟩
  · rw [htext, ofYaml_lines hss (.inr rfl), if_pos hnodup]
    rfl
  · rw [ofYaml_lines hrepeated (.inl rfl), if_neg hdup]

end Settings

end Tagline

import SheetSql.Compile.DateText
import SheetSql.Proofs.Outcome.Moment

namespace SheetSql.Call

/-! Like calls compile to like dates in a format that obey the rule of their target. -/

open Coerce Format

attribute [local simp] Expr.operator_eq

variable {terms : Terms} {call call' : Call} {dialect : Dialect} {placement : Placement}

theorem namesBy_sound {key key' : Expr} {entries : List (String × String)} (some : entries ≠ [])
    (sound : terms.Sound target key key') :
    terms.Sound target (namesBy key entries) (namesBy key' entries) := by
  have each : ∀ branch ∈ entries.map fun entry => Branch.mk (.text entry.1) (.text entry.2),
      terms.Sound target branch.condition branch.condition ∧
        terms.Sound target branch.value branch.value := by
    intro branch member
    obtain ⟨entry, _, rfl⟩ := List.mem_map.1 member
    simp
  simp [namesBy, some, sound, branches_sound (List.forall₂_same.2 each)]

theorem shownPart_sound {moment moment' : Moment}
    (same : Moment.Sound terms ⟨.sqlite, placement⟩ moment moment') (part : DisplayPart) :
    terms.Sound ⟨.sqlite, placement⟩ (shownPart moment part) (shownPart moment' part) := by
  cases part with
  | monthName | monthAbbr | weekdayName | weekdayAbbr =>
    exact namesBy_sound (by decide) (same.shown _)
  | _ =>
    simp +decide [shownPart, shownPart.unpadded, shownPart.hour, shownPart.hour12, same.shown]

theorem shownIn_sound {moment moment' : Moment}
    (same : Moment.Sound terms ⟨dialect, placement⟩ moment moment')
    (shows : dialect = .postgres → placement = .generated → "to_char" ∈ terms.stable)
    (format : String) :
    terms.Sound ⟨dialect, placement⟩ (shownIn dialect moment format)
      (shownIn dialect moment' format) := by
  cases dialect with
  | postgres =>
    cases placement with
    | select => simp +decide [shownIn, same.wall]
    | generated =>
      have free : isFree "to_char" = true := by decide
      simp +decide [shownIn, node_of_isFree free, same.wall, shows rfl rfl]
  | sqlite =>
    have shown : terms.Sound ⟨.sqlite, placement⟩
        (if (displayTokens format).isEmpty then Expr.text ""
          else .sequence .concat ((displayTokens format).map (shownToken moment)))
        (if (displayTokens format).isEmpty then Expr.text ""
          else .sequence .concat ((displayTokens format).map (shownToken moment'))) := by
      split
      · simp
      · rename_i some
        refine sequence_sound _ rfl (by simpa using some) ?_
        refine List.forall₂_map_left_iff.2 (List.forall₂_map_right_iff.2 ?_)
        refine List.forall₂_same.2 fun token _ => ?_
        cases token with
        | literal content => simp [shownToken]
        | part part => exact shownPart_sound same part
    unfold shownIn
    dsimp only
    simpa [same.value] using shown

section

variable (fits : call.Fits terms call')

include fits

theorem format_sound (shows : call.target.dialect = .postgres →
      call.target.placement = .generated → "to_char" ∈ terms.stable) (format : String) :
    terms.Sound call.target (call.format format) (call'.format format) := by
  rw [Call.format, Call.format, dialect_eq fits]
  exact shownIn_sound (moment_sound fits 0) shows format

theorem datetimeFormat_keeps (shows : call.target.dialect = .postgres →
      call.target.placement = .generated → "to_char" ∈ terms.stable)
    (fault : call.has 1 = true → terms.allows (call.fault 1 .notText)) :
    call.Keeps terms call.datetimeFormat call'.datetimeFormat := by
  rw [datetimeFormat, datetimeFormat, textLiteralOr_eq fits]
  exact (textLiteralOr_ends fault).same fun format => .ok (format_sound fits shows format)

end

theorem isoText_sound {part? part?' : DatePart → Option Expr}
    (parts : ∀ part, Option.Rel (terms.Sound target) (part? part) (part?' part))
    {fraction fraction' : List Expr}
    (rest : List.Forall₂ (terms.Sound target) fraction fraction') :
    terms.Sound target (isoText part? fraction) (isoText part?' fraction') := by
  have part : ∀ part default, terms.Sound target ((part? part).getD (.text default))
      ((part?' part).getD (.text default)) := by
    intro part default
    have related := parts part
    generalize part? part = one, part?' part = other at related
    cases related with
    | none => simp
    | some sound => exact sound
  have tail := Terms.sound_list rest
  simp +decide [isoText, part, tail]

theorem map_sound {α : Type} {f g : α → Expr} (a? : Option α)
    (each : ∀ a, terms.Sound target (f a) (g a)) :
    Option.Rel (terms.Sound target) (a?.map f) (a?.map g) := by
  cases a? with
  | none => exact .none
  | some a => exact .some (each a)

theorem isoByPosition_sound {t t' : Expr} (layout : Layout) (sound : terms.Sound target t t') :
    terms.Sound target (isoByPosition t layout) (isoByPosition t' layout) := by
  unfold isoByPosition
  refine isoText_sound (fun part => map_sound _ fun position => by simp +decide [sound]) ?_
  dsimp only
  cases layout.position? .millisecond with
  | none => exact .nil
  | some position => exact .cons (by simp) (.cons (by simp +decide [sound]) .nil)

theorem isoByCapture_sound {t t' : Expr} (template : Template)
    (sound : terms.Sound ⟨.postgres, placement⟩ t t') :
    terms.Sound ⟨.postgres, placement⟩ (isoByCapture t template) (isoByCapture t' template) := by
  unfold isoByCapture
  refine isoText_sound (fun part => ?_) ?_
  · rw [Option.map_map, Option.map_map]
    exact map_sound _ fun capture => by simp +decide [sound]
  · dsimp only
    cases template.capture? .millisecond with
    | none => exact .nil
    | some capture => exact .cons (by simp) (.cons (by simp [sound]) .nil)

theorem checkedDay_sound {t t' parsed parsed' : Expr} (template : Template)
    (sound : terms.Sound ⟨.postgres, .select⟩ t t')
    (moment : terms.Sound ⟨.postgres, .select⟩ parsed parsed') :
    terms.Sound ⟨.postgres, .select⟩ (checkedDay t template parsed)
      (checkedDay t' template parsed') := by
  have number : ∀ month : Capture, terms.Sound ⟨.postgres, .select⟩
      (if month.isName then monthOfName (t.subscript (.int month.index))
        else (t.subscript (.int month.index)).cast .integer)
      (if month.isName then monthOfName (t'.subscript (.int month.index))
        else (t'.subscript (.int month.index)).cast .integer) := by
    intro month
    split <;> simp +decide [monthOfName, sound]
  unfold checkedDay
  dsimp only
  generalize template.capture? .month = month?, template.capture? .day = day?,
    template.capture? .year = year?
  cases month? with
  | none => cases year? <;> simp +decide [moment, sound]
  | some month =>
    cases day? with
    | none => cases year? <;> simp +decide [moment, sound]
    | some day => cases year? <;> simp +decide [lastDay, interval, moment, sound, number month]

theorem inFormat_ends {α : Type} {format : String}
    (invalid : ∀ fault, terms.allows (.invalidFormat format fault))
    (result : Except FormatFault α) :
    Agree Eq terms.allows (inFormat format result) (inFormat format result) := by
  cases result with
  | ok value => exact .ok rfl
  | error fault => exact .error (invalid fault)

section

variable (fits : call.Fits terms call') (shows : (call.operand 0).MayShow call.toSite terms)
  {format : String} (invalid : ∀ fault, terms.allows (.invalidFormat format fault))

include fits shows invalid

theorem parsePostgres_keeps (postgres : call.dialect = .postgres) :
    call.Keeps terms (call.parsePostgres format) (call'.parsePostgres format) := by
  unfold Call.parsePostgres
  refine (inFormat_ends invalid _).same fun template =>
    (text_keeps fits 0 shows).bind fun {t t'} text => ?_
  dsimp only
  rw [clock_eq fits, fits.site]
  rw [Site.target_of_dialect postgres] at text
  have captures : terms.Sound ⟨.postgres, call.target.placement⟩
      (.call "regexp_match" [t, .text template.regex.text])
      (.call "regexp_match" [t', .text template.regex.text]) := by
    simp +decide [text]
  have matched : ∀ {e e' : Expr}, terms.Sound ⟨.postgres, call.target.placement⟩ e e' →
      terms.Sound call.target (Expr.caseWhen [⟨regexMatch t template.regex, e⟩] none)
        (Expr.caseWhen [⟨regexMatch t' template.regex, e'⟩] none) := by
    intro e e' sound
    rw [Site.target_of_dialect postgres]
    simp +decide [regexMatch, text, sound]
  cases Layout.read format with
  | ok layout =>
    exact .ok (matched (parseIso_sound (isoByCapture_sound template captures) _))
  | error fault =>
    cases placement : call.target.placement with
    | generated => exact .error (invalid _)
    | select =>
      rw [placement] at captures matched text
      refine .ok (matched (checkedDay_sound template captures ?_))
      split <;> simp +decide [WallClock.zoneText, text]

theorem parseSqlite_keeps (sqlite : call.dialect = .sqlite) :
    call.Keeps terms (call.parseSqlite format) (call'.parseSqlite format) := by
  unfold Call.parseSqlite
  refine (inFormat_ends invalid _).same fun layout =>
    (text_keeps fits 0 shows).bind fun {t t'} text => .ok ?_
  rw [clock_eq fits]
  rw [Site.target_of_dialect sqlite] at text ⊢
  have iso := parseIso_sound (isoByPosition_sound layout text) (call.clock (call.operand 0))
  cases layout.position? .year <;>
    simp +decide [Expr.sequence, globMatch, text, iso]

omit shows invalid in
theorem datetimeParse_keeps
    (shows : call.has 1 = true → (call.operand 0).MayShow call.toSite terms)
    (fault : call.has 1 = true → terms.allows (call.fault 1 .notText))
    (invalid : call.has 1 = true → ∀ format fault, terms.allows (.invalidFormat format fault)) :
    call.Keeps terms call.datetimeParse call'.datetimeParse := by
  rw [datetimeParse, datetimeParse, has_eq fits, textLiteral_eq fits, dialect_eq fits]
  split
  · rename_i given
    refine (textLiteral_ends (fault given)).same fun format => ?_
    cases dialect : call.dialect with
    | postgres => exact parsePostgres_keeps fits (shows given) (invalid given format) dialect
    | sqlite => exact parseSqlite_keeps fits (shows given) (invalid given format) dialect
  · exact .ok (datetime_sound fits 0)

end

end SheetSql.Call

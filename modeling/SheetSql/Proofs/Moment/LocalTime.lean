import SheetSql.Compile.Moment
import SheetSql.Proofs.Denotation.Server

namespace SheetSql

/-! The times that moments show on their clocks, and the days of them. -/

open Server

def Server.local? (server : Server) (clock : WallClock) (value : Value) : Option (Option Stamp) :=
  match server.dialect, value with
  | _, .null => some none
  | .postgres, .other moment => some (some (server.wall moment clock.zone.toList))
  | .postgres, _ => none
  | .sqlite, value => some (server.time? value [(minutesText clock.minutes).toList])

/-- A moment shows a time on its clock, or none if it is null. -/
def Moment.Shows (server : Server) (frame : Frame Item) (moment : Moment) (time : Option Stamp) :
    Prop :=
  ∃ value, moment.value.Denotes server.interpretation frame (.value value) ∧
    server.local? moment.clock value = some time

def Server.HasTime (server : Server) (stamp : Stamp) : Prop :=
  stamp.IsTime ∧ (server.dialect = .sqlite → stamp.IsShown)

def Server.HasDay (server : Server) (date : Date) : Prop :=
  date.IsReal ∧ (server.dialect = .sqlite → date.IsShown)

/-- The text of a day on SQLite, and the day itself on Postgres. -/
def Server.ofDay (server : Server) (date : Date) : Item :=
  match server.dialect with
  | .postgres => .date date
  | .sqlite => .text date.isoText

section

variable {server : Server} {frame : Frame Item} {moment : Moment} {time : Option Stamp}

theorem Server.HasTime.day (has : server.HasTime stamp) : server.HasDay stamp.date :=
  ⟨has.1.isReal, fun sqlite => (has.2 sqlite).date⟩

theorem Moment.Shows.hasTime (shows : moment.Shows server frame (some stamp)) :
    server.HasTime stamp := by
  obtain ⟨value, -, found⟩ := shows
  unfold local? at found
  split at found
  · cases found
  · next zone postgres =>
      obtain rfl := Option.some.inj (Option.some.inj found)
      exact ⟨server.wall_isTime _ _, fun sqlite => by rw [postgres] at sqlite; cases sqlite⟩
  · cases found
  · have shown := server.time?_isShown (Option.some.inj found)
    exact ⟨shown.toIsTime, fun _ => shown⟩

theorem denotes_wall (postgres : server.dialect = .postgres)
    (shows : moment.Shows server frame time) :
    moment.wall.Denotes server.interpretation frame (time.elim .null .stamp) := by
  obtain ⟨value, isValue, found⟩ := shows
  refine .atTimeZone isValue (denotes_text _) ?_
  unfold local? at found
  split at found
  · cases found
    rfl
  · cases found
    rfl
  · cases found
  · next sqlite _ =>
      rw [postgres] at sqlite
      cases sqlite

theorem mapM_text (texts : List (List Char)) :
    (texts.map Item.text).mapM Item.text? = some texts := by
  rw [List.mapM_map]
  exact (mapM_of_forall fun _ _ => rfl).trans (congrArg some (List.map_id' texts))

theorem any_isNull_text (texts : List (List Char)) :
    (texts.map Item.text).any Item.isNull = false := by
  rw [List.any_map, List.any_eq_false]
  exact fun _ _ => Bool.false_ne_true

theorem denotes_texts (texts : List String) :
    List.Forall₂ (Expr.Denotes server.interpretation frame) (texts.map .text)
      ((texts.map String.toList).map .text) := by
  rw [List.map_map, List.forall₂_map_left_iff, List.forall₂_map_right_iff]
  exact List.forall₂_same.2 fun content _ => denotes_text content

section

variable {e : Expr} {value : Value}

theorem call_strftime (moves : List (List Char)) (filled : (Item.value value).isNull = false)
    (isTime : server.time? value moves = some stamp) (isShown : stamp.shown? format = some cs) :
    server.call "strftime" (.text format :: .value value :: moves.map .text) = some (.text cs) := by
  have known : (Item.text format :: .value value :: moves.map .text).any Item.isNull = false := by
    rw [List.any_cons, List.any_cons, filled, any_isNull_text]
    rfl
  refine (server.call_of_filled known _).trans ?_
  rw [applyTime, mapM_text, Option.bind_eq_bind, Option.bind_some, isTime, Option.elim_some, isShown]
  rfl

theorem call_date (moves : List (List Char)) (filled : (Item.value value).isNull = false) :
    server.call "date" (.value value :: moves.map .text) =
      some ((server.time? value moves).elim .null fun stamp => .text stamp.date.isoText) := by
  have known : (Item.value value :: moves.map .text).any Item.isNull = false := by
    rw [List.any_cons, filled, any_isNull_text]
    rfl
  refine (server.call_of_filled known _).trans ?_
  rw [applyTime, mapM_text]
  rfl

theorem denotes_strftime (moves : List String) {format : String}
    (isValue : e.Denotes server.interpretation frame (.value value))
    (filled : (Item.value value).isNull = false)
    (isTime : server.time? value (moves.map String.toList) = some stamp)
    (isShown : stamp.shown? format.toList = some cs) :
    (Expr.call "strftime" (.text format :: e :: moves.map .text)).Denotes server.interpretation
      frame (.text cs) :=
  .call (by decide) (.cons (denotes_text format) (.cons isValue (denotes_texts moves)))
    (call_strftime _ filled isTime isShown)

theorem denotes_date (moves : List String)
    (isValue : e.Denotes server.interpretation frame (.value value))
    (filled : (Item.value value).isNull = false) :
    (Expr.call "date" (e :: moves.map .text)).Denotes server.interpretation frame
      ((server.time? value (moves.map String.toList)).elim .null fun stamp =>
        .text stamp.date.isoText) :=
  .call (by decide) (.cons isValue (denotes_texts moves)) (call_date _ filled)

end

theorem Moment.Shows.sqlite (sqlite : server.dialect = .sqlite)
    (shows : moment.Shows server frame time) :
    ∃ value, moment.value.Denotes server.interpretation frame (.value value) ∧
      (value = .null ∧ time = none ∨
        (Item.value value).isNull = false ∧
          server.time? value [(minutesText moment.clock.minutes).toList] = time) := by
  obtain ⟨value, isValue, found⟩ := shows
  refine ⟨value, isValue, ?_⟩
  unfold local? at found
  split at found
  · exact .inl ⟨rfl, (Option.some.inj found).symm⟩
  · next postgres =>
      rw [sqlite] at postgres
      cases postgres
  · cases found
  · next filled => exact .inr ⟨decide_eq_false filled, Option.some.inj found⟩

theorem denotes_shown {format : String} (sqlite : server.dialect = .sqlite)
    (shows : moment.Shows server frame (some stamp))
    (isShown : stamp.shown? format.toList = some cs) :
    (moment.shown format).Denotes server.interpretation frame (.text cs) := by
  obtain ⟨value, isValue, ⟨-, missing⟩ | ⟨filled, isTime⟩⟩ := shows.sqlite sqlite
  · cases missing
  · exact denotes_strftime [_] isValue filled isTime isShown

theorem denotes_wallDay (postgres : server.dialect = .postgres)
    (shows : moment.Shows server frame time) :
    (moment.wall.cast .date).Denotes server.interpretation frame
      ((time.map Stamp.date).elim .null server.ofDay) := by
  refine .cast (denotes_wall postgres shows) ?_
  change server.cast .date _ = _
  cases time with
  | none =>
    simp only [Option.elim_none, Option.map_none, Server.cast, postgres]
    rfl
  | some stamp =>
    rw [Option.elim_some, Option.map_some, Option.elim_some, ofDay, postgres]
    rfl

theorem denotes_day (sqlite : server.dialect = .sqlite) (shows : moment.Shows server frame time) :
    (moment.day []).Denotes server.interpretation frame
      ((time.map Stamp.date).elim .null server.ofDay) := by
  obtain ⟨value, isValue, ⟨rfl, rfl⟩ | ⟨filled, rfl⟩⟩ := shows.sqlite sqlite
  · exact .call (by decide) (.cons isValue (.cons (denotes_text _) .nil)) rfl
  · have day := denotes_date [minutesText moment.clock.minutes] isValue filled
    rw [Option.elim_map]
    simp only [Function.comp_def, ofDay, sqlite]
    exact day

theorem isNull_ofDay (date : Date) : (server.ofDay date).isNull = false := by
  unfold ofDay
  split <;> rfl

theorem before?_ofDay (first : server.HasDay a) (second : server.HasDay b) :
    (server.ofDay a).before? server.dialect (server.ofDay b) =
      some (some (decide (a.dayNumber < b.dayNumber))) := by
  unfold ofDay
  split
  · rfl
  · next sqlite =>
      rw [Item.before?, if_pos sqlite, Date.before_isoText (first.2 sqlite) (second.2 sqlite)]

end

end SheetSql

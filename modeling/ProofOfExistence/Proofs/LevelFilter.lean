import ProofOfExistence.Proofs.LoggedRegistry

/-!
# The log level of a registry only filters

Two sessions with registries that differ in the configured log level do the same, step by step: the
desk and the record of what happened stay the same, and so does what anyone is answered.  Their logs
differ in the entries of the registry's own loggers only.  With the lowest level all of them are
written, and with any other level those of them that the level lets through, in the same order.

The threshold of the other loggers has nothing to do with this.  Programs may set it at any time,
also while a call is in progress, and nothing else sets it.

## Key results

- `filteredRuns_related`: what programs and calls are made of does the same under two levels
- `session_filtered`: so do whole sessions
- `session_setsThreshold`: the threshold is the one that was set last
- `log_level_only_filters`: all that the level of a registry does
-/

namespace ProofOfExistence

variable {τ ι κ α β : Type}

/-! ## Entries of the registry's own loggers -/

/-- Whether an author is a logger of the registry: its own one or that of its service. -/
def LogAuthor.isOwn : LogAuthor → Bool
  | registry => true
  | service _ => true
  | dispatcher _ => false
  | other => false

/-- Whether an entry is kept when the registry has a level: those of other authors are. -/
def LogLevel.keeps (level : LogLevel) (x : LogAuthor × LogEntry) : Bool :=
  !x.1.isOwn || level.rank ≤ x.2.level.rank

/-- The entries of the registry's own loggers, in the order of writing. -/
def Bureau.ownEntries (w : Bureau τ ι κ) : List LogEntry :=
  (w.log.filter fun x => x.1.isOwn).map Prod.snd

/-- A logger with the threshold of a level writes an entry unless its level is lower. -/
theorem Logger.lines_of_level (source : String) (own : LogLevel) (threshold : Number)
    (level : LogLevel) (text : String) (context : LogContext) :
    Logger.lines ⟨source, some own.threshold⟩ threshold level text context =
      if own.rank ≤ level.rank then [⟨level, source, text, context⟩] else [] := by
  rw [Logger.lines, Option.getD_some, LogLevel.isBelow_threshold]
  by_cases hle : own.rank ≤ level.rank
  · rw [if_pos hle, decide_eq_false (Nat.not_lt.2 hle)]
    rfl
  · rw [if_neg hle, decide_eq_true (Nat.not_le.1 hle)]
    rfl

/-! ## Two levels -/

variable {level : LogLevel} {w w' : Bureau τ ι κ}

/-- A bureau whose registry has the lowest level, and one whose registry has some level, but in
which the same happened. -/
structure Filtered (level : LogLevel) (w w' : Bureau τ ι κ) : Prop where
  desk : w'.desk = w.desk
  trace : w'.trace = w.trace
  log : w'.log = w.log.filter level.keeps
  audible : ∀ x ∈ w.log, x.1.isOwn = true → x.2.level ≠ .silent

/-- Two computations end alike in bureaus in which the same happened, and the same goes on to happen
in them. -/
def FilteredRuns (level : LogLevel) (x y : Run (Bureau τ ι κ) α) : Prop :=
  ∀ w w', Filtered level w w' →
    (y.exec w').1 = (x.exec w).1 ∧ Filtered level (x.exec w).2 (y.exec w').2

private theorem filteredRuns_bind {x y : Run (Bureau τ ι κ) α} {f g : α → Run (Bureau τ ι κ) β}
    (hxy : FilteredRuns level x y) (hfg : ∀ a, FilteredRuns level (f a) (g a)) :
    FilteredRuns level (x >>= f) (y >>= g) := by
  intro w w' h
  obtain ⟨houtcome, hfiltered⟩ := hxy w w' h
  rw [Run.exec_bind, Run.exec_bind]
  rcases hx : x.exec w with ⟨outcome, v⟩
  rcases hy : y.exec w' with ⟨outcome', v'⟩
  rw [hx, hy] at houtcome hfiltered
  obtain rfl : outcome' = outcome := houtcome
  cases outcome' with
  | error e => exact ⟨rfl, hfiltered⟩
  | ok a => exact hfg a v v' hfiltered

/-- What a logger writes has the level of its entry. -/
private theorem level_of_mem_lines {l : Logger} {threshold : Number} {entryLevel : LogLevel}
    {text : String} {context : LogContext} {e : LogEntry}
    (h : e ∈ l.lines threshold entryLevel text context) : e.level = entryLevel := by
  unfold Logger.lines at h
  split at h
  · cases h
  · rw [List.mem_singleton.1 h]

/-- Two loggers of an author do alike if the level lets through what the one writes and the other
does not. -/
private theorem filteredRuns_log {l l' : Logger} {author : LogAuthor} {entryLevel : LogLevel}
    {text : String} {context : LogContext}
    (hlines : ∀ threshold, l'.lines threshold entryLevel text context =
      (l.lines threshold entryLevel text context).filter fun e => level.keeps (author, e))
    (haudible : author.isOwn = true → entryLevel ≠ .silent) :
    let out : LogOutput (Bureau τ ι κ) := Bureau.output author
    FilteredRuns level (l.log out entryLevel text context)
      (l'.log out entryLevel text context) := by
  intro out w w' h
  rw [Bureau.exec_log, Bureau.exec_log]
  refine ⟨rfl, h.desk, h.trace, ?_, fun x hx hown => ?_⟩
  · show w'.log ++ _ = (w.log ++ _).filter _
    rw [h.log, h.desk, hlines, List.filter_append, List.filter_map]
    rfl
  · rcases List.mem_append.1 hx with hx | hx
    · exact h.audible x hx hown
    · obtain ⟨e, he, rfl⟩ := List.mem_map.1 hx
      rw [level_of_mem_lines he]
      exact haudible hown

/-- What other loggers write is kept. -/
private theorem filteredRuns_log_other (l : Logger) {author : LogAuthor}
    (hauthor : author.isOwn = false) (entryLevel : LogLevel) (text : String)
    (context : LogContext) :
    let out : LogOutput (Bureau τ ι κ) := Bureau.output author
    FilteredRuns level (l.log out entryLevel text context) (l.log out entryLevel text context) := by
  apply filteredRuns_log
  · intro threshold
    have hkeeps (e : LogEntry) : level.keeps (author, e) = true := by
      rw [LogLevel.keeps, hauthor]
      rfl
    rw [List.filter_eq_self.2 fun e _ => hkeeps e]
  · intro hown
    rw [hauthor] at hown
    cases hown

/-- Of the entries of the registry's own loggers those are kept that the level lets through. -/
private theorem filteredRuns_log_own (source : String) {author : LogAuthor}
    (hauthor : author.isOwn = true) {entryLevel : LogLevel} (hentry : entryLevel ≠ .silent)
    (text : String) (context : LogContext) :
    let out : LogOutput (Bureau τ ι κ) := Bureau.output author
    FilteredRuns level
      (Logger.log ⟨source, some LogLevel.debug.threshold⟩ out entryLevel text context)
      (Logger.log ⟨source, some level.threshold⟩ out entryLevel text context) := by
  apply filteredRuns_log
  · intro threshold
    have hlowest : LogLevel.debug.rank ≤ entryLevel.rank := Nat.zero_le _
    rw [Logger.lines_of_level, Logger.lines_of_level, if_pos hlowest]
    by_cases hle : level.rank ≤ entryLevel.rank
    · rw [if_pos hle, List.filter_cons_of_pos]
      · rfl
      · rw [LogLevel.keeps, hauthor, decide_eq_true hle]
        rfl
    · rw [if_neg hle, List.filter_cons_of_neg]
      · rfl
      · rw [LogLevel.keeps, hauthor, decide_eq_false hle]
        exact Bool.false_ne_true
  · exact fun _ => hentry

/-- What programs and calls are made of does the same under two levels. -/
theorem filteredRuns_related (level : LogLevel) (c : Clerks τ ι κ) (source : String)
    (bound : Nat) :
    Bureau.Related (fun _ x y => FilteredRuns level x y) c
      ⟨source, some LogLevel.debug.threshold⟩ ⟨source, some level.threshold⟩ bound where
  pure _ := fun _ _ h => ⟨rfl, h⟩
  bind := filteredRuns_bind
  ofExcept _ := fun _ _ h => ⟨rfl, h⟩
  observe hxy := fun w w' h => by
    obtain ⟨houtcome, hfiltered⟩ := hxy w w' h
    exact ⟨congrArg Except.ok houtcome, hfiltered⟩
  look := fun _ _ h => ⟨congrArg Except.ok h.desk, h⟩
  -- The threshold of the desk is not among what a part may alter.
  alter f := fun w w' h => by
    refine ⟨rfl, ?_, h.trace, h.log, h.audible⟩
    show { f w'.desk with threshold := w'.desk.threshold } = _
    rw [h.desk]
    rfl
  note i _ := fun _ _ h => ⟨rfl, h.desk, congrArg (· ++ [i]) h.trace, h.log, h.audible⟩
  -- A change of the threshold is noted, and the loggers with one of their own do not ask for it.
  setThreshold t := fun w w' h => by
    refine ⟨rfl, ?_, ?_, h.log, h.audible⟩
    · show { w'.desk with threshold := t } = _
      rw [h.desk]
      rfl
    · show w'.trace ++ [.thresholdSet t] = _
      rw [h.trace]
      rfl
  logOther own entryLevel text context := filteredRuns_log_other own rfl entryLevel text context
  -- The service logs with the threshold of the configuration, all others as they did.
  logService room _ entryLevel text context hentry :=
    filteredRuns_log_own source rfl hentry text context
  logDispatcher room _ entryLevel text context :=
    filteredRuns_log_other c.dispatcherLogger rfl entryLevel text context

/-- A session with any level does what the session with the lowest level does, and its log is what
the level lets through. -/
theorem session_filtered (c : Clerks τ ι κ) (opens : StoreKind → τ → Except Fault τ) (depth : Nat)
    (configuration : Configuration) (p : DeskProgram τ ι κ α) {name : String}
    (hlevel : LogLevel.ofName? name = some level) :
    FilteredRuns level (c.session opens depth { configuration with logLevel := "debug" } p)
      (c.session opens depth { configuration with logLevel := name } p) := by
  let lowest : Configuration := { configuration with logLevel := "debug" }
  let other : Configuration := { configuration with logLevel := name }
  have hlowest : LogLevel.ofName? lowest.logLevel = some .debug := by
    show LogLevel.ofName? "debug" = some .debug
    decide
  have hother : LogLevel.ofName? other.logLevel = some level := hlevel
  rw [c.session_eq opens depth hlowest, c.session_eq opens depth hother]
  have hstore := filteredRuns_related level c Registry.logSource 0
  -- The store is opened, the limit is checked, and the registry logs that it is ready.
  refine hstore.bind (hstore.update _) fun _ => ?_
  refine hstore.bind (hstore.ofExcept _) fun limit => ?_
  have hready : LogLevel.info ≠ .silent := nofun
  -- From then on the program runs among the clerks of the registry.
  refine hstore.bind (filteredRuns_log_own _ rfl hready _ _) fun _ => ?_
  have h := filteredRuns_related level { c with proofLimit := limit }
    (Registry.logSource ++ ":" ++ "service") depth
  exact p.run_related h (Clerks.doors_related h (Nat.le_refl depth))

/-! ## The threshold of the other loggers -/

/-- The threshold after what happened: the one that was set last, if any was. -/
def lastThreshold (initial : Number) (trace : List (Incident τ ι κ)) : Number :=
  trace.foldl (fun last i => match i with | .thresholdSet t => t | _ => last) initial

/-- One bureau is a later state of another, and its threshold is the one that was set last. -/
def SetsThreshold (w w' : Bureau τ ι κ) : Prop :=
  ∃ later, w'.trace = w.trace ++ later ∧
    w'.desk.threshold = lastThreshold w.desk.threshold later

instance : IsPreorder (Bureau τ ι κ) SetsThreshold where
  refl w := ⟨[], (List.append_nil _).symm, rfl⟩
  trans := by
    rintro w w₁ w₂ ⟨later, htrace, hthreshold⟩ ⟨later', htrace', hthreshold'⟩
    refine ⟨later ++ later', by rw [htrace', htrace, List.append_assoc], ?_⟩
    rw [hthreshold', hthreshold, lastThreshold, lastThreshold, lastThreshold, List.foldl_append]

theorem setsThreshold_of_same (htrace : w'.trace = w.trace)
    (hthreshold : w'.desk.threshold = w.desk.threshold) : SetsThreshold w w' :=
  ⟨[], by rw [htrace, List.append_nil], hthreshold⟩

private theorem setsThreshold_log (l : Logger) (author : LogAuthor) (entryLevel : LogLevel)
    (text : String) (context : LogContext) :
    let out : LogOutput (Bureau τ ι κ) := Bureau.output author
    Run.Respects SetsThreshold (l.log out entryLevel text context) := by
  intro out w
  rw [Bureau.exec_log]
  exact setsThreshold_of_same rfl rfl

/-- What programs and calls are made of sets the threshold only where that is noted. -/
theorem setsThreshold_related (c : Clerks τ ι κ) (l : Logger) (bound : Nat) :
    Bureau.Related (fun _ x _ => Run.Respects SetsThreshold x) c l l bound where
  toComposes := Run.composes_respects SetsThreshold
  ofExcept r := Run.respects_ofExcept SetsThreshold r
  observe h := Run.respects_observe h
  look := fun _ => setsThreshold_of_same rfl rfl
  alter _ := fun _ => setsThreshold_of_same rfl rfl
  note i hi := fun w => by
    refine ⟨[i], rfl, ?_⟩
    cases i with
    | thresholdSet t => exact absurd rfl (hi t)
    | _ => rfl
  setThreshold t := fun _ => ⟨[.thresholdSet t], rfl, rfl⟩
  logOther own := setsThreshold_log own .other
  logService room _ entryLevel text context _ := setsThreshold_log l _ entryLevel text context
  logDispatcher room _ := setsThreshold_log c.dispatcherLogger _

/-- In a session the threshold is set where that is noted and nowhere else. -/
theorem session_setsThreshold (c : Clerks τ ι κ) (opens : StoreKind → τ → Except Fault τ)
    (depth : Nat) {configuration : Configuration} (p : DeskProgram τ ι κ α)
    (hlevel : LogLevel.ofName? configuration.logLevel = some level) :
    Run.Respects SetsThreshold (c.session opens depth configuration p) := by
  rw [c.session_eq opens depth hlevel]
  have hstore := setsThreshold_related c ⟨Registry.logSource, none⟩ 0
  refine Run.respects_bind (hstore.update _) fun _ => ?_
  refine Run.respects_bind (Run.respects_ofExcept _ _) fun limit => ?_
  refine Run.respects_bind (setsThreshold_log _ _ _ _ _) fun _ => ?_
  have h := setsThreshold_related { c with proofLimit := limit }
    (Logger.child ⟨Registry.logSource, some level.threshold⟩ "service") depth
  exact p.run_related h (Clerks.doors_related h (Nat.le_refl depth))

/-! ## The statement -/

/-- What a level leaves of the entries of the registry's own loggers. -/
theorem Filtered.ownEntries (h : Filtered level w w') :
    w'.ownEntries = w.ownEntries.filter fun e => level.rank ≤ e.level.rank := by
  rw [Bureau.ownEntries, Bureau.ownEntries, h.log, List.filter_filter, List.filter_map,
    List.filter_filter]
  congr 1
  refine List.filter_congr fun x _ => ?_
  rw [LogLevel.keeps]
  cases x.1.isOwn with
  | false => exact (Bool.and_false _).symm
  | true => exact (Bool.and_true _).symm

/-- Nothing that a registry writes is above all thresholds. -/
theorem Filtered.ownEntries_eq_nil (h : Filtered .silent w w') : w'.ownEntries = [] := by
  rw [h.ownEntries, List.filter_eq_nil_iff]
  intro e he
  obtain ⟨x, hx, rfl⟩ := List.mem_map.1 he
  obtain ⟨hmem, hown⟩ := List.mem_filter.1 hx
  have haudible := h.audible x hmem hown
  rw [decide_eq_true_eq]
  cases hentry : x.2.level with
  | silent => exact absurd hentry haudible
  | _ => decide

/-- For every two names of levels, in all surroundings: a session with a registry whose
configuration has the one name does the same as with the other name.  It ends with the same outcome,
the desk is the same at its end and after each call, each call is answered the same, and the same
events are deposited.  The entries of the registry's own loggers are those that they write at the
lowest level, in the same order, without those below the level of its name, and there are none for
the silent level.  The threshold of the other loggers is the one that was set last, at any point of
the session; the registry never sets it. -/
theorem log_level_only_filters (c : Clerks τ ι κ) (opens : StoreKind → τ → Except Fault τ)
    (depth : Nat) (configuration : Configuration) (desk : Desk τ ι κ) (p : DeskProgram τ ι κ α)
    {name name' : String} {level level' : LogLevel} (hname : LogLevel.ofName? name = some level)
    (hname' : LogLevel.ofName? name' = some level') :
    let session (name : String) :=
      (c.session opens depth { configuration with logLevel := name } p).exec (.start desk)
    (session name').1 = (session name).1 ∧
      (session name').2.desk = (session name).2.desk ∧
      (session name').2.trace = (session name).2.trace ∧
      (session name).2.ownEntries =
        (session "debug").2.ownEntries.filter (fun e => level.rank ≤ e.level.rank) ∧
      (level = .silent → (session name).2.ownEntries = []) ∧
      (session name).2.desk.threshold = lastThreshold desk.threshold (session name).2.trace := by
  intro session
  -- Both sessions are held against the one at the lowest level.
  have hstart (level : LogLevel) : Filtered level (.start desk) (.start desk) :=
    ⟨rfl, rfl, rfl, nofun⟩
  obtain ⟨houtcome, hfiltered⟩ :=
    session_filtered c opens depth configuration p hname _ _ (hstart level)
  obtain ⟨houtcome', hfiltered'⟩ :=
    session_filtered c opens depth configuration p hname' _ _ (hstart level')
  refine ⟨houtcome'.trans houtcome.symm, hfiltered'.desk.trans hfiltered.desk.symm,
    hfiltered'.trace.trans hfiltered.trace.symm, hfiltered.ownEntries, ?_, ?_⟩
  · -- At the level `silent` nothing is kept.
    rintro rfl
    exact hfiltered.ownEntries_eq_nil
  · -- The threshold is the one that was set last in the session.
    have hlevel : LogLevel.ofName? { configuration with logLevel := name }.logLevel = some level :=
      hname
    obtain ⟨later, htrace, hthreshold⟩ :=
      session_setsThreshold c opens depth p hlevel (.start desk)
    have hlater : (session name).2.trace = later := htrace
    rw [hlater]
    exact hthreshold

/-- A registry is opened, a claim is created, and someone else fails to revoke it.  The sink sets
the threshold of the other loggers in the middle of the first call. -/
theorem log_level_only_filters_interleaved :
    let c : Clerks UndoStore Unit Unit :=
      { ops := UndoStore.transactional.toStoreOps
        now := .done (.ok (.ofNat 5))
        deposit := fun _ => .setThreshold LogLevel.silent.threshold (.done (.ok ()))
        proofLimit := 0
        notify := fun _ _ _ _ => .done (.ok ())
        verify := Call.verifySignature
        countDispatch := fun _ _ => .done (.ok ())
        serviceLogger := ⟨"service", none⟩
        dispatcherLogger := ⟨"dispatcher", none⟩ }
    let p : DeskProgram UndoStore Unit Unit Unit :=
      .setThreshold LogLevel.error.threshold
        (.serve (.create (.signed "alice") [7]) fun _ =>
          .serve (.revoke (.signed "bob") [7]) fun _ => .done (.ok ()))
    let desk : Desk UndoStore Unit Unit :=
      ⟨.empty, .empty, [], .empty, (), LogLevel.info.threshold⟩
    let configuration : Configuration := ⟨.ofNat 8, "memory", ":memory:", "info"⟩
    let session (name : String) :=
      (c.session (fun _ s => .ok s) 1 { configuration with logLevel := name } p).exec (.start desk)
    LogLevel.ofName? "INFO" = some .info ∧ LogLevel.ofName? "silent" = some .silent ∧
      (session "debug").2.ownEntries.map LogEntry.level = [.info, .info, .debug] ∧
      (session "INFO").2.ownEntries.map LogEntry.level = [.info, .info] ∧
      (session "silent").2.ownEntries = [] ∧
      (session "silent").2.trace = (session "INFO").2.trace ∧
      (session "silent").2.desk.threshold = LogLevel.silent.threshold := by
  intro c p desk configuration session
  have hinfo : LogLevel.ofName? "INFO" = some .info := by decide
  have hsilent : LogLevel.ofName? "silent" = some .silent := by decide
  have hlevels : (session "debug").2.ownEntries.map LogEntry.level = [.info, .info, .debug] := by
    decide +kernel
  obtain ⟨-, -, htrace, hkept, -, -⟩ :=
    log_level_only_filters c (fun _ s => .ok s) 1 configuration desk p hinfo hsilent
  obtain ⟨-, -, -, -, hnone, hthreshold⟩ :=
    log_level_only_filters c (fun _ s => .ok s) 1 configuration desk p hsilent hinfo
  -- What is kept at `info` are the entries of the lowest level that are not below it.
  refine ⟨hinfo, hsilent, hlevels, ?_, hnone rfl, htrace, hthreshold.trans ?_⟩
  · have hkept' : (session "INFO").2.ownEntries = _ := hkept
    have hmap := List.filter_map (f := LogEntry.level) (p := fun l => LogLevel.info.rank ≤ l.rank)
      (l := (session "debug").2.ownEntries)
    rw [hlevels] at hmap
    rw [hkept']
    exact hmap.symm
  · decide +kernel

end ProofOfExistence

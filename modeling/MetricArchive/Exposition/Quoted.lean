import MetricArchive.Exposition.Fault

/-!
# Quoted label values and help texts

In a label value a backslash escapes itself, the double quote and, as `n`, the line feed; nothing
else may follow one. In a help text only the backslash and the line feed are escaped, and any other
backslash stands for itself. Main statement: `readQuoted` undoes `escape` and stops after the
closing quote.
-/
namespace MetricArchive.Exposition

def escapeChar : Char → List Char
  | '\\' => ['\\', '\\']
  | '"' => ['\\', '"']
  | '\n' => ['\\', 'n']
  | c => [c]

/-- A label value as it stands between its quotes. -/
def escape (value : List Char) : List Char := value.flatMap escapeChar

/-- The character that a backslash and the given character stand for. -/
def unescape? : Char → Option Char
  | '\\' => some '\\'
  | '"' => some '"'
  | 'n' => some '\n'
  | _ => none

/-- Reads on to the closing quote; `done` holds the characters read so far, the last one first. -/
def readQuotedFrom (done : List Char) : List Char → Except LineRefusal (List Char × List Char)
  | [] => .error (.fault .unterminatedValue done.reverse)
  | '"' :: rest => .ok (done.reverse, rest)
  | '\\' :: [] => .error (.fault .invalidEscape ['\\'])
  | '\\' :: e :: rest =>
    match unescape? e with
    | some c => readQuotedFrom (c :: done) rest
    | none => .error (.fault .invalidEscape ['\\', e])
  | c :: rest => readQuotedFrom (c :: done) rest

/-- The value whose opening quote was just passed, and what follows its closing quote. -/
def readQuoted (cs : List Char) : Except LineRefusal (List Char × List Char) :=
  readQuotedFrom [] cs

theorem readQuotedFrom_length {done cs value rest : List Char}
    (h : readQuotedFrom done cs = .ok (value, rest)) : rest.length < cs.length := by
  fun_induction readQuotedFrom done cs with
  | case1 => simp at h
  | case2 => simp_all
  | case3 => simp at h
  | case4 done e tail c _ ih =>
    have := ih h
    simp only [List.length_cons]
    omega
  | case5 => simp at h
  | case6 done c tail _ _ _ ih =>
    have := ih h
    simp only [List.length_cons]
    omega

theorem readQuoted_length {cs value rest : List Char} (h : readQuoted cs = .ok (value, rest)) :
    rest.length < cs.length :=
  readQuotedFrom_length h

def unescapeHelp : List Char → List Char
  | '\\' :: '\\' :: rest => '\\' :: unescapeHelp rest
  | '\\' :: 'n' :: rest => '\n' :: unescapeHelp rest
  | c :: rest => c :: unescapeHelp rest
  | [] => []

def escapeHelpChar : Char → List Char
  | '\\' => ['\\', '\\']
  | '\n' => ['\\', 'n']
  | c => [c]

def escapeHelp (help : List Char) : List Char := help.flatMap escapeHelpChar

end MetricArchive.Exposition

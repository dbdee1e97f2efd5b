import StarterCode.Proofs.TypeExpr.Height

/-!
# How many types are read inside each other

`readType` is given the number of levels that may still be used and hands on one fewer, so what it
recurses on is the limit itself. Here the same reading is done by a walk over the tokens that counts
for itself. It raises the depth when it enters a type, lowers it when it leaves the type, be it with
an answer or with an error, and refuses to go on where the depth exceeds `maxNesting`.

The walk recurses on something that has nothing to do with this limit, a budget of types inside each
other. A walk that exceeds its budget has no outcome at all. So it is a fact about the walk, and not
about the recursion, that a budget of one type more than `maxNesting` is never exceeded.

What the walk and the reader have in common is `Gives`: the same answer or the same error, at the
depth at which the walk began, or a budget that is too short. Each rule of the grammar keeps it if
the walk for the types inside does, and from there it holds of all walks by induction on the budget
(`walkType_follows`).
-/

set_option autoImplicit false

namespace StarterCode.TypeExpr

/-! ## Walks -/

/-- Where a walk stands. -/
structure Cursor where
  /-- The tokens ahead. -/
  ahead : List Token
  /-- The number of types that are being read. -/
  depth : Nat

/-- Goes over tokens and counts types. An answer or an error comes with the cursor as it is then,
and nothing comes out when the budget is exceeded. -/
abbrev Walk (α : Type) := ExceptT TypeError (StateT Cursor Option) α

namespace Walk

variable {α : Type}

/-- What comes out of a walk. -/
def outcome (walk : Walk α) (cursor : Cursor) : Option (Except TypeError α × Cursor) :=
  (ExceptT.run walk).run cursor

/-- The walk that exceeds its budget. -/
def exhausted : Walk α :=
  ExceptT.mk failure

/-- Takes the step, which may be refused. -/
def skip (step : List Token → Except TypeError (List Token)) : Walk Unit := do
  match step (← get).ahead with
  | .ok rest => modify fun cursor => { cursor with ahead := rest }
  | .error error => throw error

/-- Takes the step if it can be taken, and tells whether it was. -/
def pass (step? : List Token → Option (List Token)) : Walk Bool := do
  match step? (← get).ahead with
  | some rest =>
    modify fun cursor => { cursor with ahead := rest }
    return true
  | none => return false

/-- The walk through a type: it is one type deeper inside, and in the end it is back as it was. -/
def counted (walk : Walk α) : Walk α := ExceptT.mk do
  modify fun cursor => { cursor with depth := cursor.depth + 1 }
  let result ← walk.run
  modify fun cursor => { cursor with depth := cursor.depth - 1 }
  return result

end Walk

/-- The tokens behind the sign, if it comes first. -/
def sign? (sign : Token) : List Token → Option (List Token)
  | found :: rest => if found = sign then some rest else none
  | [] => none

/-! ## The rules, over a walk for the types inside -/

section Rules

variable (nested : Walk ValueType)

/-- A sequence behind its keyword. -/
def walkSequence : Walk ValueType := do
  if ← Walk.pass (sign? .leftAngle) then
    let element ← nested
    Walk.skip (skipSign .rightAngle)
    return .array element
  else
    Walk.skip (skipConnective .of)
    let element ← nested
    return .array element

/-- A pair behind its keyword. -/
def walkPair : Walk ValueType := do
  if ← Walk.pass (sign? .leftAngle) then
    let first ← nested
    Walk.skip (skipSign .comma)
    let second ← nested
    Walk.skip (skipSign .rightAngle)
    return .pair first second
  else
    Walk.skip (skipConnective .of)
    let first ← nested
    Walk.skip (skipConnective .and)
    let second ← nested
    return .pair first second

/-- The other components of a tuple between angle brackets. -/
def walkAngleComponents : (commas : Nat) → Walk (List ValueType)
  | 0 => return []
  | commas + 1 => do
    if ← Walk.pass (sign? .comma) then
      let component ← nested
      let components ← walkAngleComponents commas
      return component :: components
    else return []

/-- The last component of a tuple behind `of`, if there is one more. -/
def walkLastComponent : Walk (List ValueType) := do
  if ← Walk.pass (connective? .and) then
    let component ← nested
    return [component]
  else return []

/-- The other components of a tuple behind `of`. -/
def walkListedComponents : (commas : Nat) → Walk (List ValueType)
  | 0 => walkLastComponent nested
  | commas + 1 => do
    if ← Walk.pass (sign? .comma) then
      if ← Walk.pass (connective? .and) then
        let component ← nested
        return [component]
      else
        let component ← nested
        let components ← walkListedComponents commas
        return component :: components
    else walkLastComponent nested

/-- The components of a tuple behind its keyword. -/
def walkComponents : Walk (List ValueType) := do
  if ← Walk.pass (sign? .leftAngle) then
    let first ← nested
    let others ← walkAngleComponents nested (← get).ahead.length
    Walk.skip (skipSign .rightAngle)
    return first :: others
  else
    Walk.skip (skipConnective .of)
    let first ← nested
    let others ← walkListedComponents nested (← get).ahead.length
    return first :: others

/-- A tuple behind its keyword. -/
def walkTuple : Walk ValueType := do
  let components ← walkComponents nested
  if components.length < 2 then throw .shortTuple
  else return .tuple components

/-- A type without its suffixes. -/
def walkPrimary : Walk ValueType := do
  match (← get).ahead with
  | .word letters :: rest =>
    modify fun cursor => { cursor with ahead := rest }
    match Keyword.ofWord? letters with
    | some (.scalar type) => return type
    | some .sequence => walkSequence nested
    | some .pair => walkPair nested
    | some .tuple => walkTuple nested
    | none =>
      if Keyword.isConnective letters then throw (.unexpected .type (.word letters))
      else if Text.isIdentifier letters then return .custom (String.ofList letters)
      else throw (.notTypeName letters)
  | found :: rest =>
    modify fun cursor => { cursor with ahead := rest }
    throw (.unexpected .type found)
  | [] => throw (.unfinished .type)

end Rules

/-- The type with the suffixes that stand behind it, each of them counted on top of the depth, and
the tokens that are left. -/
def countSuffixes (depth : Nat) (type : ValueType) (suffixes : Nat) :
    List Token → Except TypeError ValueType × List Token
  | .brackets :: rest =>
    if maxNesting < depth + (suffixes + 1) then (.error (.tooDeep maxNesting), rest)
    else countSuffixes depth (.array type) (suffixes + 1) rest
  | tokens => (.ok type, tokens)

/-- The suffixes behind a type that has some already. -/
def walkSuffixes (type : ValueType) (suffixes : Nat) : Walk ValueType := ExceptT.mk do
  let cursor ← get
  let (result, ahead) := countSuffixes cursor.depth type suffixes cursor.ahead
  set { cursor with ahead }
  return result

/-- A type, with at most `budget` types inside each other, itself included. -/
def walkType : (budget : Nat) → Walk ValueType
  | 0 => Walk.exhausted
  | budget + 1 => Walk.counted do
    if maxNesting < (← get).depth then throw (.tooDeep maxNesting)
    else
      let type ← walkPrimary (walkType budget)
      walkSuffixes type 0

/-- A type with nothing behind it. -/
def walkWhole (budget : Nat) : Walk ValueType := do
  let type ← walkType budget
  match (← get).ahead with
  | [] => return type
  | extra :: _ => throw (.trailing extra type)

/-- The type that a text denotes, if the budget is not exceeded. -/
def parseWithin (budget : Nat) (text : List Char) : Option (Except TypeError ValueType) :=
  match Token.scan text with
  | .error error => some (.error error)
  | .ok [] => some (.error .empty)
  | .ok tokens => ((walkWhole budget).outcome ⟨tokens, 0⟩).map (·.1)

/-! ## Walks that follow a reader -/

/-- What comes out of the walk from the tokens at the depth is the result of a reader, at the same
depth, or nothing if the budget is `short`. -/
inductive Gives {α : Type} (short : Prop) (depth : Nat) (tokens : List Token) (walk : Walk α) :
    Except TypeError (α × List Token) → Prop
  | ok {a : α} {rest : List Token}
    (h : walk.outcome ⟨tokens, depth⟩ = some (.ok a, ⟨rest, depth⟩)) :
    Gives short depth tokens walk (.ok (a, rest))
  | error {error : TypeError} {rest : List Token}
    (h : walk.outcome ⟨tokens, depth⟩ = some (.error error, ⟨rest, depth⟩)) :
    Gives short depth tokens walk (.error error)
  | exhausted {result : Except TypeError (α × List Token)} (hshort : short)
    (h : walk.outcome ⟨tokens, depth⟩ = none) : Gives short depth tokens walk result

/-- From every place at the depth, the walk gives what the reader reads. -/
def Follows {α : Type} (short : Prop) (depth : Nat) (walk : Walk α) (reader : Reader α) : Prop :=
  ∀ tokens, Gives short depth tokens walk (reader tokens)

section Steps

variable {α β : Type} {short : Prop} {depth : Nat} {tokens rest : List Token} {walk : Walk α}
  {next : α → Walk β} {cursor after : Cursor}

theorem outcome_bind (walk : Walk α) (next : α → Walk β) (cursor : Cursor) :
    (walk >>= next : Walk β).outcome cursor = walk.outcome cursor >>= fun
      | (.ok a, after) => (next a).outcome after
      | (.error error, after) => some (.error error, after) := by
  rw [Walk.outcome, Walk.outcome, ExceptT.run_bind, StateT.run_bind]
  refine bind_congr ?_
  rintro ⟨result, after⟩
  cases result <;> rfl

/-- A walk gives what another one gives that comes out the same. -/
theorem Gives.of_outcome_eq {walk' : Walk α} {tokens' : List Token}
    {result : Except TypeError (α × List Token)} (hgives : Gives short depth tokens' walk' result)
    (h : walk.outcome ⟨tokens, depth⟩ = walk'.outcome ⟨tokens', depth⟩) :
    Gives short depth tokens walk result := by
  cases hgives with
  | ok houtcome => exact .ok (h.trans houtcome)
  | error houtcome => exact .error (h.trans houtcome)
  | exhausted hshort houtcome => exact .exhausted hshort (h.trans houtcome)

/-- A walk that goes on gives what a reader gives that goes on, if both of its parts do. -/
theorem Gives.bind {first : Except TypeError (α × List Token)}
    {next' : α × List Token → Except TypeError (β × List Token)}
    (hfirst : Gives short depth tokens walk first)
    (hnext : ∀ a rest, Gives short depth rest (next a) (next' (a, rest))) :
    Gives short depth tokens (walk >>= next) (first >>= next') := by
  cases hfirst with
  | @ok a rest h => exact (hnext a rest).of_outcome_eq (by rw [outcome_bind, h]; rfl)
  | error h => exact .error (by rw [outcome_bind, h]; rfl)
  | exhausted hshort h => exact .exhausted hshort (by rw [outcome_bind, h]; rfl)

theorem Gives.pure (a : α) : Gives short depth tokens (pure a) (.ok (a, tokens)) :=
  .ok rfl

theorem Gives.throw (error : TypeError) :
    Gives short depth tokens (throw error : Walk α) (.error error) :=
  .error rfl

theorem outcome_skip (step : List Token → Except TypeError (List Token)) (cursor : Cursor) :
    (Walk.skip step).outcome cursor = match step cursor.ahead with
      | .ok rest => some (.ok (), { cursor with ahead := rest })
      | .error error => some (.error error, cursor) := by
  have hstep : (Walk.skip step).outcome cursor = Walk.outcome (match step cursor.ahead with
      | .ok rest => modify fun cursor => { cursor with ahead := rest }
      | .error error => throw error) cursor := rfl
  rw [hstep]
  cases step cursor.ahead <;> rfl

theorem outcome_pass (step? : List Token → Option (List Token)) (cursor : Cursor) :
    (Walk.pass step?).outcome cursor = match step? cursor.ahead with
      | some rest => some (.ok true, { cursor with ahead := rest })
      | none => some (.ok false, cursor) := by
  have hstep : (Walk.pass step?).outcome cursor = Walk.outcome (match step? cursor.ahead with
      | some rest => do
        modify fun cursor => { cursor with ahead := rest }
        return true
      | none => return false) cursor := rfl
  rw [hstep]
  cases step? cursor.ahead <;> rfl

/-- A step that must be taken. -/
theorem Gives.skip {step : List Token → Except TypeError (List Token)} {next : Unit → Walk α}
    {next' : List Token → Except TypeError (α × List Token)}
    (hnext : ∀ rest, Gives short depth rest (next ()) (next' rest)) :
    Gives short depth tokens (Walk.skip step >>= next) (step tokens >>= next') := by
  have houtcome := outcome_skip step ⟨tokens, depth⟩
  cases hstep : step tokens with
  | error error =>
    simp only [hstep] at houtcome
    exact .error (by rw [outcome_bind, houtcome]; rfl)
  | ok rest =>
    simp only [hstep] at houtcome
    exact (hnext rest).of_outcome_eq (by rw [outcome_bind, houtcome]; rfl)

/-- A step that can be taken. -/
theorem Gives.pass_of_some {step? : List Token → Option (List Token)} {next : Bool → Walk α}
    {result : Except TypeError (α × List Token)} (hstep : step? tokens = some rest)
    (hnext : Gives short depth rest (next true) result) :
    Gives short depth tokens (Walk.pass step? >>= next) result := by
  have houtcome := outcome_pass step? ⟨tokens, depth⟩
  simp only [hstep] at houtcome
  exact hnext.of_outcome_eq (by rw [outcome_bind, houtcome]; rfl)

/-- A step that cannot be taken. -/
theorem Gives.pass_of_none {step? : List Token → Option (List Token)} {next : Bool → Walk α}
    {result : Except TypeError (α × List Token)} (hstep : step? tokens = none)
    (hnext : Gives short depth tokens (next false) result) :
    Gives short depth tokens (Walk.pass step? >>= next) result := by
  have houtcome := outcome_pass step? ⟨tokens, depth⟩
  simp only [hstep] at houtcome
  exact hnext.of_outcome_eq (by rw [outcome_bind, houtcome]; rfl)

/-- Looking where the walk stands. -/
theorem Gives.get {next : Cursor → Walk α} {result : Except TypeError (α × List Token)}
    (hnext : Gives short depth tokens (next ⟨tokens, depth⟩) result) :
    Gives short depth tokens (get >>= next) result :=
  hnext.of_outcome_eq rfl

/-- What is given one type deeper is given by the walk that goes there and comes back. -/
theorem Gives.counted {result : Except TypeError (α × List Token)}
    (h : Gives short (depth + 1) tokens walk result) :
    Gives short depth tokens (Walk.counted walk) result := by
  have houtcome : (Walk.counted walk).outcome ⟨tokens, depth⟩ =
      walk.outcome ⟨tokens, depth + 1⟩ >>= fun (result, after) =>
        some (result, ⟨after.ahead, after.depth - 1⟩) := rfl
  cases h with
  | ok h => exact .ok (by rw [houtcome, h]; rfl)
  | error h => exact .error (by rw [houtcome, h]; rfl)
  | exhausted hshort h => exact .exhausted hshort (by rw [houtcome, h]; rfl)

end Steps

/-! ## The rules -/

theorem sign?_eq_some_iff {sign : Token} {tokens rest : List Token} :
    sign? sign tokens = some rest ↔ tokens = sign :: rest := by
  cases tokens with
  | nil => simp [sign?]
  | cons found others =>
    by_cases hfound : found = sign <;> simp [sign?, hfound]

theorem sign?_eq_none_iff {sign : Token} {tokens : List Token} :
    sign? sign tokens = none ↔ ∀ rest, tokens ≠ sign :: rest := by
  simp only [Option.eq_none_iff_forall_ne_some, ne_eq, sign?_eq_some_iff]

section Rules

variable {short : Prop} {depth : Nat} {nested : Walk ValueType} {reader : Reader ValueType}

theorem walkSequence_follows (hnested : Follows short depth nested reader) :
    Follows short depth (walkSequence nested) (readSequence reader) := by
  intro tokens
  cases hsign : sign? .leftAngle tokens with
  | some rest =>
    rw [sign?_eq_some_iff.mp hsign, readSequence]
    refine Gives.pass_of_some rfl ?_
    refine Gives.bind (hnested rest) fun element rest => ?_
    exact Gives.skip fun rest => .pure _
  | none =>
    rw [readSequence.eq_2 _ _ (sign?_eq_none_iff.mp hsign)]
    refine Gives.pass_of_none hsign ?_
    refine Gives.skip fun rest => ?_
    exact Gives.bind (hnested rest) fun element rest => .pure _

theorem walkPair_follows (hnested : Follows short depth nested reader) :
    Follows short depth (walkPair nested) (readPair reader) := by
  intro tokens
  cases hsign : sign? .leftAngle tokens with
  | some rest =>
    rw [sign?_eq_some_iff.mp hsign, readPair]
    refine Gives.pass_of_some rfl ?_
    refine Gives.bind (hnested rest) fun first rest => ?_
    refine Gives.skip fun rest => ?_
    refine Gives.bind (hnested rest) fun second rest => ?_
    exact Gives.skip fun rest => .pure _
  | none =>
    rw [readPair.eq_2 _ _ (sign?_eq_none_iff.mp hsign)]
    refine Gives.pass_of_none hsign ?_
    refine Gives.skip fun rest => ?_
    refine Gives.bind (hnested rest) fun first rest => ?_
    refine Gives.skip fun rest => ?_
    exact Gives.bind (hnested rest) fun second rest => .pure _

theorem walkAngleComponents_follows (hnested : Follows short depth nested reader) (commas : Nat) :
    Follows short depth (walkAngleComponents nested commas)
      (readAngleComponents reader commas) := by
  intro tokens
  fun_induction readAngleComponents reader commas tokens with
  | case1 commas rest ih =>
    refine Gives.pass_of_some rfl ?_
    refine Gives.bind (hnested rest) fun component rest => ?_
    exact Gives.bind (ih rest) fun components rest => .pure _
  | case2 bound tokens hcomma =>
    -- there is no comma, or no more of them are allowed for
    cases bound with
    | zero => exact .pure _
    | succ commas =>
      exact Gives.pass_of_none (sign?_eq_none_iff.mpr (hcomma commas · rfl)) (.pure _)

theorem walkLastComponent_of_some (hnested : Follows short depth nested reader)
    {tokens rest : List Token} (hand : connective? .and tokens = some rest) :
    Gives short depth tokens (walkLastComponent nested) (do
      let (component, rest) ← reader rest
      return ([component], rest)) :=
  Gives.pass_of_some hand (Gives.bind (hnested rest) fun _ _ => .pure _)

theorem walkLastComponent_of_none {tokens : List Token} (hand : connective? .and tokens = none) :
    Gives short depth tokens (walkLastComponent nested) (.ok ([], tokens)) :=
  Gives.pass_of_none hand (.pure _)

theorem walkListedComponents_follows (hnested : Follows short depth nested reader)
    (commas : Nat) :
    Follows short depth (walkListedComponents nested commas)
      (readListedComponents reader commas) := by
  intro tokens
  fun_induction readListedComponents reader commas tokens with
  | case1 commas tokens rest hand =>
    refine Gives.pass_of_some rfl ?_
    refine Gives.pass_of_some hand ?_
    exact Gives.bind (hnested rest) fun component rest => .pure _
  | case2 commas tokens hand ih =>
    refine Gives.pass_of_some rfl ?_
    refine Gives.pass_of_none hand ?_
    refine Gives.bind (hnested tokens) fun component rest => ?_
    exact Gives.bind (ih rest) fun components rest => .pure _
  | case3 bound tokens rest hand hcomma =>
    have hlast := walkLastComponent_of_some hnested hand
    cases bound with
    | zero => exact hlast
    | succ commas => exact Gives.pass_of_none (sign?_eq_none_iff.mpr (hcomma commas · rfl)) hlast
  | case4 bound tokens hand hcomma =>
    have hlast : Gives short depth tokens (walkLastComponent nested) _ :=
      walkLastComponent_of_none hand
    cases bound with
    | zero => exact hlast
    | succ commas => exact Gives.pass_of_none (sign?_eq_none_iff.mpr (hcomma commas · rfl)) hlast

theorem walkComponents_follows (hnested : Follows short depth nested reader) :
    Follows short depth (walkComponents nested) (readComponents reader) := by
  intro tokens
  cases hsign : sign? .leftAngle tokens with
  | some rest =>
    rw [sign?_eq_some_iff.mp hsign, readComponents]
    refine Gives.pass_of_some rfl ?_
    refine Gives.bind (hnested rest) fun first rest => Gives.get ?_
    refine Gives.bind (walkAngleComponents_follows hnested _ rest) fun others rest => ?_
    exact Gives.skip fun rest => .pure _
  | none =>
    rw [readComponents.eq_2 _ _ (sign?_eq_none_iff.mp hsign)]
    refine Gives.pass_of_none hsign ?_
    refine Gives.skip fun rest => ?_
    refine Gives.bind (hnested rest) fun first rest => Gives.get ?_
    exact Gives.bind (walkListedComponents_follows hnested _ rest) fun others rest => .pure _

theorem walkTuple_follows (hnested : Follows short depth nested reader) :
    Follows short depth (walkTuple nested) (readTuple reader) := by
  intro tokens
  refine Gives.bind (walkComponents_follows hnested tokens) fun components rest => ?_
  by_cases hcount : components.length < 2
  · simp only [if_pos hcount]
    exact .throw _
  · simp only [if_neg hcount]
    exact .pure _

/-- Going past the word that was seen. -/
theorem Gives.word {walk : Walk ValueType} {letters : List Char} {rest : List Token}
    {result : Except TypeError (ValueType × List Token)} (h : Gives short depth rest walk result) :
    Gives short depth (.word letters :: rest) (do
      modify fun cursor => { cursor with ahead := rest }
      walk) result :=
  h.of_outcome_eq rfl

theorem walkPrimary_follows (hnested : Follows short depth nested reader) :
    Follows short depth (walkPrimary nested) (readPrimary reader) := by
  intro tokens
  refine Gives.get ?_
  cases tokens with
  | nil => exact .error rfl
  | cons found rest =>
    cases found with
    | word letters =>
      refine Gives.word ?_
      rw [readPrimary]
      cases Keyword.ofWord? letters with
      | some keyword =>
        cases keyword with
        | scalar type => exact .pure _
        | sequence => exact walkSequence_follows hnested rest
        | pair => exact walkPair_follows hnested rest
        | tuple => exact walkTuple_follows hnested rest
      | none =>
        by_cases hconnective : Keyword.isConnective letters = true
        · simp only [if_pos hconnective]
          exact .throw _
        · by_cases hidentifier : Text.isIdentifier letters = true
          · simp only [if_neg hconnective, if_pos hidentifier]
            exact .pure _
          · simp only [if_neg hconnective, if_neg hidentifier]
            exact .throw _
    | _ => exact .error rfl

end Rules

/-! ## The whole -/

theorem outcome_walkSuffixes (type : ValueType) (suffixes depth : Nat) (tokens : List Token) :
    (walkSuffixes type suffixes).outcome ⟨tokens, depth⟩ =
      some ((countSuffixes depth type suffixes tokens).1,
        ⟨(countSuffixes depth type suffixes tokens).2, depth⟩) := rfl

/-- The room that is left for suffixes is what the limit leaves beyond the depth and the suffixes so
far. -/
theorem walkSuffixes_follows {short : Prop} {depth suffixes room : Nat}
    (h : depth + suffixes + room = maxNesting) (type : ValueType) :
    Follows short depth (walkSuffixes type suffixes) (readSuffixes type room) := by
  intro tokens
  fun_induction readSuffixes type room tokens generalizing suffixes with
  | case1 type rest =>
    have hfull : maxNesting < depth + (suffixes + 1) := by omega
    have houtcome : (walkSuffixes type suffixes).outcome ⟨.brackets :: rest, depth⟩ =
        some (.error (.tooDeep maxNesting), ⟨rest, depth⟩) := by
      rw [outcome_walkSuffixes, countSuffixes, if_pos hfull]
    exact .error houtcome
  | case2 type rest room ih =>
    have hroom : ¬ maxNesting < depth + (suffixes + 1) := by omega
    have hnext : depth + (suffixes + 1) + room = maxNesting := by omega
    refine (ih hnext).of_outcome_eq ?_
    rw [outcome_walkSuffixes, outcome_walkSuffixes, countSuffixes, if_neg hroom]
  | case3 type room tokens hnone =>
    refine .ok ?_
    rw [outcome_walkSuffixes, countSuffixes.eq_2 _ _ _ _ hnone]

/-- **What a walk through a type gives.** It gives what the reader gives that has the levels which
the depth has left, and the only budgets it exceeds are no larger than their number. -/
theorem walkType_follows (budget depth : Nat) :
    Follows (budget ≤ maxNesting - depth) depth (walkType budget)
      (readType (maxNesting - depth)) := by
  induction budget generalizing depth with
  | zero => exact fun _ => .exhausted (Nat.zero_le _) rfl
  | succ budget ih =>
    intro tokens
    refine Gives.counted (Gives.get ?_)
    by_cases hdeep : maxNesting < depth + 1
    · have hlevels : maxNesting - depth = 0 := by omega
      rw [if_pos hdeep, hlevels]
      exact .throw _
    · -- inside, one level fewer is left of the limit and one type fewer of the budget
      have hlevels : maxNesting - depth = maxNesting - (depth + 1) + 1 := by omega
      have hshort : budget + 1 ≤ maxNesting - (depth + 1) + 1 ↔ budget ≤ maxNesting - (depth + 1) :=
        Nat.add_le_add_iff_right
      rw [if_neg hdeep, hlevels, hshort]
      refine Gives.bind (walkPrimary_follows (ih (depth + 1)) tokens) fun type rest => ?_
      exact walkSuffixes_follows (by omega) type rest

/-- A walk comes out at the depth at which it began, if it comes out at all. -/
theorem Gives.depth_eq {α : Type} {short : Prop} {depth : Nat} {tokens : List Token} {walk : Walk α}
    {result : Except TypeError (α × List Token)} (h : Gives short depth tokens walk result)
    {outcome : Except TypeError α} {after : Cursor}
    (houtcome : walk.outcome ⟨tokens, depth⟩ = some (outcome, after)) : after.depth = depth := by
  cases h with
  | ok h =>
    rw [houtcome, Option.some.injEq, Prod.mk.injEq] at h
    rw [h.2]
  | error h =>
    rw [houtcome, Option.some.injEq, Prod.mk.injEq] at h
    rw [h.2]
  | exhausted _ h =>
    rw [houtcome] at h
    cases h

/-- With budget enough, what comes out in the end is what the tokens denote. -/
theorem outcome_walkWhole {budget : Nat} (h : maxNesting < budget) {tokens : List Token}
    (hne : tokens.isEmpty = false) :
    ((walkWhole budget).outcome ⟨tokens, 0⟩).map (·.1) = some (ofTokens tokens) := by
  have hgives := walkType_follows budget 0 tokens
  rw [Nat.sub_zero] at hgives
  rw [walkWhole, outcome_bind, ofTokens, hne, if_neg Bool.false_ne_true]
  generalize readType maxNesting tokens = result at hgives ⊢
  cases hgives with
  | @ok type rest houtcome =>
    rw [houtcome]
    cases rest <;> rfl
  | error houtcome =>
    rw [houtcome]
    rfl
  | exhausted hshort _ => exact absurd h (Nat.not_lt.mpr hshort)

/-- **The recursion is bounded.** With a budget of one type more than `maxNesting`, or any larger
one, a text is read with the result that it has without a budget. Whatever the budget, a walk
through a type comes out at the depth at which it began, with an answer or with an error. -/
theorem parse_within_budget :
    (∀ text extra, parseWithin (maxNesting + 1 + extra) text = some (parse text)) ∧
      ∀ budget cursor result after, (walkType budget).outcome cursor = some (result, after) →
        after.depth = cursor.depth := by
  constructor
  · intro text extra
    have hbudget : maxNesting < maxNesting + 1 + extra := by omega
    unfold parseWithin parse
    cases Token.scan text with
    | error error => rfl
    | ok tokens =>
      cases tokens with
      | nil => rfl
      | cons token tokens => exact outcome_walkWhole hbudget rfl
  · intro budget cursor result after houtcome
    exact (walkType_follows budget cursor.depth cursor.ahead).depth_eq houtcome

/-- `int` inside one more `list<...>` than there may be types around it. -/
def overloadedText : List Char :=
  bracketedText (List.replicate maxNesting 0)

/-- The last word of `overloadedText` is refused, and that takes the whole budget: one type fewer is
exceeded. The walk that fails inside of a list is outside of it when it comes out. -/
theorem parse_within_budget_overloaded :
    parseWithin maxNesting overloadedText = none ∧
      parseWithin (maxNesting + 1) overloadedText = some (parse overloadedText) ∧
      (∃ error, parse overloadedText = .error error) ∧
      ∃ result after, (walkType 2).outcome ⟨[.word "list".toList, .leftAngle, .comma], 3⟩ =
        some (.error result, after) ∧ after.depth = 3 := by
  obtain ⟨hbudget, hdepth⟩ := parse_within_budget
  have hexceeded : (parseWithin maxNesting overloadedText).isNone = true := by decide +kernel
  have houtcome : (walkType 2).outcome ⟨[.word "list".toList, .leftAngle, .comma], 3⟩ =
      some (.error (.unexpected .type .comma), ⟨[], 3⟩) := rfl
  have hrefused : ∃ error, parse overloadedText = .error error :=
    exists_eq_error_of_toOption (by decide +kernel)
  exact ⟨Option.isNone_iff_eq_none.mp hexceeded, hbudget overloadedText 0, hrefused, _, _, houtcome,
    hdepth 2 _ _ _ houtcome⟩

end StarterCode.TypeExpr

import AkashicSystem.StorageCore.GameExternalStorage

/-!
# Pages of a ranking

`doReadOrder` asks for a range of the ascending ranking, counted from its end where the order
is descending, and divides each text of the reply into a player and a score.
-/

set_option autoImplicit false

namespace AkashicSystem.StorageCore

open List

variable {σ ν : Type} (lang : Language ν) (commands : Commands σ ν)

def DEFAULT_STORAGE_READ_REQUEST_LIMIT : Int := 10

def DEFAULT_STORAGE_READ_REQUEST_OFFSET : Int := 0

def readMember (type : ValueType) (memberScore : String) : Except String (StorageData ν) :=
  let (playerId, score) := splitMember memberScore
  if playerId = "" then throw "invalid read storage result."
  else return ⟨playerId, convertValueType lang (some score) type⟩

def doReadOrder (s : σ) (req : ReadRequest) : Except String (ReadResponse ν) := do
  let gameCode ← req.getGameCode
  let originalStart :=
    if req.offset ≠ 0 then req.offset else DEFAULT_STORAGE_READ_REQUEST_OFFSET
  let originalEnd := if req.limit ≠ 0 then originalStart + req.limit - 1
    else originalStart + DEFAULT_STORAGE_READ_REQUEST_LIMIT - 1
  let first := if req.order = some .desc then -originalEnd - 1 else originalStart
  let last := if req.order = some .desc then -originalStart - 1 else originalEnd
  let storageKey ← req.createStorageKey
  let data ← (storageZrange lang commands s storageKey first last).mapM (readMember lang req.type)
  return req.respond gameCode (if req.order = some .desc then data.reverse else data)

/-- The slice of the ranking in the order of the request. -/
def ReadRequest.page {α : Type} (req : ReadRequest) (ranking : List α) : List α :=
  ((if req.order = some .desc then ranking.reverse else ranking).drop req.offset.toNat).take
    req.limit.toNat

variable (member : String × ν)

def ranked : StorageData ν := ⟨member.1, .json (.number member.2)⟩

/-- In the text of the member, a colon and its score occur first at the end of the player. -/
def Divides : Prop :=
  ∀ k < member.1.toList.length, ¬ (':' :: (lang.scoreText member.2).toList) <+:
    (member.1.toList ++ ':' :: (lang.scoreText member.2).toList).drop k

theorem beforeFirst_eq_iff (separator id : List Char) (nonempty : separator ≠ []) :
    beforeFirst separator (id ++ separator) = id ↔
      ∀ k < id.length, ¬ separator <+: (id ++ separator).drop k := by
  induction id with
  | nil =>
    obtain ⟨c, rest, rfl⟩ := exists_cons_of_ne_nil nonempty
    simp [beforeFirst]
  | cons c id ih =>
    rw [cons_append, beforeFirst]
    split_ifs with here
    · refine iff_of_false (by simp) fun never => ?_
      exact never 0 (by simp) (by simpa using here)
    · rw [cons_inj_right, ih]
      constructor
      · intro later k below
        cases k with
        | zero => simpa using here
        | succ k => exact later k (by simpa using below)
      · exact fun never k below => never (k + 1) (by simpa using below)

theorem splitMember_memberScore : splitMember (memberScore lang member) =
    (String.ofList (beforeFirst (':' :: (lang.scoreText member.2).toList)
      (member.1.toList ++ ':' :: (lang.scoreText member.2).toList)), lang.scoreText member.2) := by
  have text : (memberScore lang member).toList =
      member.1.toList ++ ':' :: (lang.scoreText member.2).toList := by simp [memberScore]
  have last : ((memberScore lang member).toList.splitOn ':').getLastD [] =
      (lang.scoreText member.2).toList := by
    rw [text, splitOn_append_cons_self, splitOn_eq_singleton (lang.scoreText_colon _)]
    simp
  rw [splitMember, last, text, String.ofList_toList]

/-- The player for whose member a text is taken. -/
def parsedPlayer : String := (splitMember (memberScore lang member)).1

theorem parsedPlayer_eq_iff :
    parsedPlayer lang member = member.1 ↔ Divides lang member := by
  rw [parsedPlayer, splitMember_memberScore, Divides, ← beforeFirst_eq_iff _ _ (by simp),
    ← String.toList_inj, String.toList_ofList]

theorem readMember_memberScore :
    readMember lang .orderedNumber (memberScore lang member) =
      if parsedPlayer lang member = "" then throw "invalid read storage result."
      else return ranked (parsedPlayer lang member, member.2) := by
  rw [readMember, parsedPlayer, splitMember_memberScore]
  simp only [convertValueType, lang.number_scoreText, ranked]

theorem mapM_readMember (members : List (String × ν)) (data : List (StorageData ν)) :
    (members.map (memberScore lang)).mapM (readMember lang .orderedNumber) = .ok data ↔
      (∀ member ∈ members, parsedPlayer lang member ≠ "") ∧
        (members.map fun member => ranked (parsedPlayer lang member, member.2)) = data := by
  induction members generalizing data with
  | nil => simp [pure, Except.pure]
  | cons member rest ih =>
    rw [forall_mem_cons, map_cons, mapM_cons, readMember_memberScore]
    split_ifs with empty
    · exact iff_of_false (fun read => by cases read) fun read => read.1.1 empty
    · cases others : (rest.map (memberScore lang)).mapM (readMember lang .orderedNumber) with
      | error =>
        refine iff_of_false (fun read => by cases read) fun read => ?_
        cases others.symm.trans ((ih _).mpr ⟨read.1.2, rfl⟩)
      | ok others_ =>
        obtain ⟨given, rfl⟩ := (ih others_).mp others
        simpa [bind, Except.bind, pure, Except.pure, empty] using fun _ => given

theorem mapM_readMember_iff (members : List (String × ν)) :
    (members.map (memberScore lang)).mapM (readMember lang .orderedNumber) =
      .ok (members.map ranked) ↔ ∀ member ∈ members, member.1 ≠ "" ∧ Divides lang member := by
  rw [mapM_readMember, map_inj_left, ← forall₂_and]
  refine forall₂_congr fun member _ => ?_
  rw [← parsedPlayer_eq_iff]
  simp only [ranked, StorageData.mk.injEq, and_true]
  exact ⟨fun ⟨given, same⟩ => ⟨same ▸ given, same⟩, fun ⟨given, same⟩ => ⟨same ▸ given, same⟩⟩

theorem storageZrange_asc (s : σ) (key : String) (offset limit : Nat) (positive : 0 < limit) :
    storageZrange lang commands s key offset (offset + limit - 1) =
      (((commands.ranking s key).drop offset).take limit).map (memberScore lang) := by
  have first : ¬ (offset : Int) < 0 := by omega
  have last : ¬ (offset + limit - 1 : Int) < 0 := by omega
  have behind : (offset + limit - 1 + 1 : Int).toNat = offset + limit := by omega
  rw [storageZrange]
  simp only [if_neg first, if_neg last, behind, Int.toNat_natCast, ← map_take, ← map_drop,
    drop_take, Nat.add_sub_cancel_left]

theorem storageZrange_desc (s : σ) (key : String) (offset limit : Nat) (positive : 0 < limit) :
    storageZrange lang commands s key (-(offset + limit - 1) - 1) (-offset - 1) =
      (((commands.ranking s key).reverse.drop offset).take limit).reverse.map
        (memberScore lang) := by
  have first : (-(offset + limit - 1) - 1 : Int) < 0 := by omega
  have last : (-offset - 1 : Int) < 0 := by omega
  have behind (n : Nat) : (-offset - 1 + n + 1 : Int).toNat = n - offset := by omega
  have begins (n : Nat) : (-(offset + limit - 1) - 1 + n : Int).toNat = n - offset - limit := by
    omega
  rw [storageZrange, drop_reverse, take_reverse, reverse_reverse]
  simp only [if_pos first, if_pos last, behind, begins, length_map, ← map_take,
    ← map_drop, length_take, Nat.min_eq_left (Nat.sub_le _ _)]

theorem doReadOrder_eq (s : σ) (req : ReadRequest) {gameCode storageKey : String}
    (game : req.getGameCode = .ok gameCode) (created : req.createStorageKey = .ok storageKey)
    (offset : 0 ≤ req.offset) (limit : 0 < req.limit) :
    doReadOrder lang commands s req = do
      let page := req.page (commands.ranking s storageKey)
      let data ← ((if req.order = some .desc then page.reverse else page).map
        (memberScore lang)).mapM (readMember lang req.type)
      return req.respond gameCode (if req.order = some .desc then data.reverse else data) := by
  obtain ⟨o, offset⟩ := Int.eq_ofNat_of_zero_le offset
  obtain ⟨l, length⟩ := Int.eq_ofNat_of_zero_le limit.le
  have positive : 0 < l := by omega
  have start : (if (o : Int) ≠ 0 then (o : Int) else DEFAULT_STORAGE_READ_REQUEST_OFFSET) = o := by
    split_ifs with zero
    · rfl
    · exact (not_not.mp zero).symm
  have some_ : (l : Int) ≠ 0 := by omega
  have asc := storageZrange_asc lang commands s storageKey o l positive
  have desc := storageZrange_desc lang commands s storageKey o l positive
  rw [doReadOrder, game, created, ReadRequest.page, offset, length, Int.toNat_natCast,
    Int.toNat_natCast]
  by_cases descending : req.order = some .desc
  · simp only [start, if_pos some_, if_pos descending, bind, Except.bind, desc]
  · simp only [start, if_pos some_, if_neg descending, bind, Except.bind, asc]

/-- A page is the slice of the ranking, players and scores as they were written, exactly if none
of its players is empty, nor has a colon and the score before the end. -/
theorem doReadOrder_iff (s : σ) (req : ReadRequest) {gameCode storageKey : String}
    (game : req.getGameCode = .ok gameCode) (created : req.createStorageKey = .ok storageKey)
    (accepted : req.checkReadRequestParameter = true) (type : req.type = .orderedNumber)
    (limit : 0 < req.limit) :
    doReadOrder lang commands s req =
        .ok (req.respond gameCode ((req.page (commands.ranking s storageKey)).map ranked)) ↔
      ∀ member ∈ req.page (commands.ranking s storageKey),
        member.1 ≠ "" ∧ Divides lang member := by
  have offset : 0 ≤ req.offset := by
    simp only [ReadRequest.checkReadRequestParameter, Bool.and_eq_true, Bool.not_eq_true',
      Bool.or_eq_false_iff, decide_eq_false_iff_not] at accepted
    exact not_lt.mp accepted.1.2.2
  rw [doReadOrder_eq lang commands s req game created offset limit, type]
  generalize req.page (commands.ranking s storageKey) = page
  dsimp only
  split_ifs with descending
  · have read := mapM_readMember_iff lang page.reverse
    simp only [mem_reverse] at read
    rw [← read]
    cases (page.reverse.map (memberScore lang)).mapM (readMember lang .orderedNumber) with
    | error => exact iff_of_false (fun read => by cases read) fun read => by cases read
    | ok data =>
      simp [ReadRequest.respond, bind, Except.bind, pure, Except.pure, ← reverse_eq_iff]
  · rw [← mapM_readMember_iff lang page]
    cases (page.map (memberScore lang)).mapM (readMember lang .orderedNumber) with
    | error => exact iff_of_false (fun read => by cases read) fun read => by cases read
    | ok data => simp [ReadRequest.respond, bind, Except.bind, pure, Except.pure]

def memberRequest : ReadRequest :=
  ⟨⟨"game", "", "", "key"⟩, .orderedNumber, none, some .asc, "", 0, 1⟩

/-- The empty player has a score, and its page is an error. -/
theorem memberRequest_thrown :
    doReadOrder integers (entriesBeside [("", 5)] (nodup_singleton _)) [] memberRequest ≠
      .ok (memberRequest.respond "game" ((memberRequest.page [("", 5)]).map ranked)) := by
  have thrown : doReadOrder integers (entriesBeside [("", 5)] (nodup_singleton _)) []
      memberRequest = .error "invalid read storage result." := rfl
  rw [thrown]
  intro same
  cases same

def pageRequest : ReadRequest :=
  ⟨⟨"game", "", "", "key"⟩, .orderedNumber, none, some .desc, "", 1, 2⟩

def threePlayers : List (String × Int) := [("a", 1), ("b", 3), ("c", 5)]

theorem threePlayers_nodup : (threePlayers.map Prod.fst).Nodup := by decide

theorem doReadOrder_iff_pageRequest :
    doReadOrder integers (entriesBeside threePlayers threePlayers_nodup) [] pageRequest =
        .ok (pageRequest.respond "game" ((pageRequest.page threePlayers).map ranked)) ↔
      ∀ member ∈ pageRequest.page threePlayers, member.1 ≠ "" ∧ Divides integers member :=
  doReadOrder_iff integers (entriesBeside threePlayers threePlayers_nodup) [] pageRequest
    rfl rfl rfl rfl (by decide)

end AkashicSystem.StorageCore

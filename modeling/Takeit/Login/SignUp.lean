import Mathlib.Data.List.DropRight
import Takeit.Firestore
import Takeit.Login.Member
import Takeit.Login.Password

/-!
# The sign-up page (`SignUpViewController.swift`)

The form, what is presented over it, and the calls of `createUser` that have not
called back. While something is presented the form takes no touches, and whatever
else is to be presented is ignored. Calls are answered at any time, with the form
and the photo as they are by then.
-/

namespace Takeit

open Takeit.Logic Takeit.Firestore

/-- What `createUser` is called with. -/
structure Credentials where
  email : String
  password : String
deriving DecidableEq, Repr

/-- What is presented over the form: the alerts 錯誤, by their messages, the alert
註冊成功！, the sheet 選圖片, the picker of photos, the member page that the segue
`SignUpSuccess` shows, and the page that 上一頁 shows. -/
inductive SignUpDialog
  | error (message : String)
  | welcome
  | sheet
  | imagePicker
  | member
  | back
deriving DecidableEq, Repr

/-- The view controller and what it has asked for: the accounts that were created,
by uid, the documents for the users collection, and the photos for the storage. -/
structure SignUpVC where
  fields : SignUpFields := ⟨"", "", "", some (.named "persona")⟩
  presented : Option SignUpDialog := none
  requests : List Credentials := []
  accounts : List (String × Credentials) := []
  users : List DocumentData := []
  photos : List (String × Picture) := []
  login : LoginState

/-- The document `signUp` adds to the users collection. -/
def userDocument (uid email : String) : DocumentData :=
  dictionary [("uid", .string uid), ("email", .string email)]

namespace SignUpVC

/-- The page after `viewDidLoad`. -/
def viewDidLoad (login : LoginState) : SignUpVC := { login }

/-- `present(_:)`: ignored while something is presented. -/
def present (vc : SignUpVC) (dialog : SignUpDialog) : SignUpVC :=
  { vc with presented := vc.presented.or (some dialog) }

/-- What was presented is gone. -/
def dismiss (vc : SignUpVC) : SignUpVC := { vc with presented := none }

variable (sw : SwiftString) (isSpace : Char → Bool) (hasJPEG : Picture → Bool)

/-- `signUp(_:)`. The alert of `validateFields()` is on the screen already when the
one after it is presented. -/
def signUp (vc : SignUpVC) : SignUpVC :=
  match validateFields sw isSpace vc.fields with
  | .error message => (vc.present (.error message)).present (.error "電子信箱格式不符")
  | .ok () => { vc with
      requests := vc.requests ++
        [⟨trimmed isSpace vc.fields.email, trimmed isSpace vc.fields.password⟩] }

/-- The completion handler of `createUser`, called back with a user. The photo is the
one in the image view by now; without JPEG data of it the handler traps, and the page
is opened again some day. -/
def created (vc : SignUpVC) (asked : Credentials) (uid : String) : SignUpVC :=
  let vc := { vc with
    accounts := vc.accounts ++ [(uid, asked)]
    users := vc.users ++ [userDocument uid asked.email] }
  match vc.fields.userUploadImage.filter hasJPEG with
  | none => { vc with
      fields := ⟨"", "", "", some (.named "persona")⟩
      presented := none
      requests := []
      login := vc.login.exec (.signUp false (some uid)) }
  | some photo => { vc with
      photos := vc.photos ++ [(uid, photo)]
      login := vc.login.exec (.signUp true (some uid)) }.present .welcome

/-- The completion handler of the `k`-th `createUser`; without a user it only
prints. -/
def createUser (vc : SignUpVC) (k : Nat) (result : Option String) : Option SignUpVC :=
  vc.requests[k]?.map fun asked =>
    let vc := { vc with requests := vc.requests.eraseIdx k }
    match result with
    | none => vc
    | some uid => vc.created hasJPEG asked uid

/-- OK in the alert 註冊成功！. -/
def welcomeOk (vc : SignUpVC) : SignUpVC :=
  if vc.login.defaults "user_email_login" ≠ none then vc.present .member else vc

/-- `imagePickerController(_:didFinishPickingMediaWithInfo:)`. -/
def picked (vc : SignUpVC) (image : Option Picture) : SignUpVC :=
  { vc with fields := { vc.fields with userUploadImage := image } }.dismiss

end SignUpVC

/-! ## The page as a transition system -/

/-- What can happen to the page. `login` is a callback of what `signUp` has left
behind. -/
inductive SignUpAction
  | edit (email password confirmPassword : String)
  | signUp
  | createUser (k : Nat) (result : Option String)
  | userUploadImage
  | choose
  | picked (image : Option Picture)
  | ok
  | cancel
  | back
  | closed
  | login (a : LoginAction)

/-- The callbacks of `signIn`, `putData` and `downloadURL`. -/
def LoginAction.isCallback : LoginAction → Bool
  | .signInAnswered _ _ | .putDataAnswered _ _ | .downloadURLAnswered _ _ => true
  | _ => false

namespace SignUpVC

variable (sw : SwiftString) (isSpace : Char → Bool) (hasJPEG : Picture → Bool)
  (isPhotoOf : String → String → Bool)

/-- One step. A photo that is picked is not the picture the form starts with. -/
def next (vc : SignUpVC) : SignUpAction → Option SignUpVC
  | .edit email password confirmPassword =>
      if vc.presented = none then
        some { vc with fields := { vc.fields with email, password, confirmPassword } }
      else none
  | .signUp => if vc.presented = none then some (vc.signUp sw isSpace) else none
  | .createUser k result => vc.createUser hasJPEG k result
  | .userUploadImage => if vc.presented = none then some (vc.present .sheet) else none
  | .choose =>
      if vc.presented = some .sheet then some (vc.dismiss.present .imagePicker) else none
  | .picked image =>
      if vc.presented = some .imagePicker ∧ image ≠ some (.named "persona") then
        some (vc.picked image)
      else none
  | .ok =>
      match vc.presented with
      | some (.error _) => some vc.dismiss
      | some .welcome => some vc.dismiss.welcomeOk
      | _ => none
  | .cancel =>
      if vc.presented = some .sheet ∨ vc.presented = some .imagePicker then some vc.dismiss
      else none
  | .back => if vc.presented = none then some (vc.present .back) else none
  | .closed =>
      if vc.presented = some .member ∨ vc.presented = some .back then some vc.dismiss else none
  | .login a =>
      if a.isCallback then (vc.login.next isPhotoOf a).map fun login => { vc with login }
      else none

end SignUpVC

/-- The page, opened in any state of the app. -/
def signUpPage (sw : SwiftString) (isSpace : Char → Bool) (hasJPEG : Picture → Bool)
    (isPhotoOf : String → String → Bool) : Lts SignUpVC SignUpAction :=
  .ofNext (fun vc => ∃ login, vc = .viewDidLoad login)
    (SignUpVC.next sw isSpace hasJPEG isPhotoOf)


/-! ## The outcomes of a step -/

variable {sw : SwiftString} {isSpace : Char → Bool} {hasJPEG : Picture → Bool}
  {isPhotoOf : String → String → Bool} {vc vc' : SignUpVC} {a : SignUpAction}

/-- Every way a step can go. -/
inductive SignUpStep (sw : SwiftString) (isSpace : Char → Bool) (hasJPEG : Picture → Bool)
    (isPhotoOf : String → String → Bool) (vc : SignUpVC) : SignUpAction → SignUpVC → Prop
  | edited {email password confirmPassword} : vc.presented = none →
      SignUpStep sw isSpace hasJPEG isPhotoOf vc (.edit email password confirmPassword)
        { vc with fields := { vc.fields with email, password, confirmPassword } }
  | refused {message} : validateFields sw isSpace vc.fields = .error message →
      SignUpStep sw isSpace hasJPEG isPhotoOf vc .signUp
        { vc with presented := some (.error message) }
  | asked : validateFields sw isSpace vc.fields = .ok () →
      SignUpStep sw isSpace hasJPEG isPhotoOf vc .signUp { vc with
        requests := vc.requests ++
          [⟨trimmed isSpace vc.fields.email, trimmed isSpace vc.fields.password⟩] }
  | notCreated {k} : SignUpStep sw isSpace hasJPEG isPhotoOf vc (.createUser k none)
      { vc with requests := vc.requests.eraseIdx k }
  | trapped {k asked uid} : vc.requests[k]? = some asked →
      vc.fields.userUploadImage.filter hasJPEG = none →
      SignUpStep sw isSpace hasJPEG isPhotoOf vc (.createUser k (some uid)) { vc with
        fields := ⟨"", "", "", some (.named "persona")⟩
        presented := none
        requests := []
        accounts := vc.accounts ++ [(uid, asked)]
        users := vc.users ++ [userDocument uid asked.email]
        login := vc.login.exec (.signUp false (some uid)) }
  | created {k asked uid photo} : vc.requests[k]? = some asked →
      vc.fields.userUploadImage.filter hasJPEG = some photo →
      SignUpStep sw isSpace hasJPEG isPhotoOf vc (.createUser k (some uid)) { vc with
        presented := vc.presented.or (some .welcome)
        requests := vc.requests.eraseIdx k
        accounts := vc.accounts ++ [(uid, asked)]
        users := vc.users ++ [userDocument uid asked.email]
        photos := vc.photos ++ [(uid, photo)]
        login := vc.login.exec (.signUp true (some uid)) }
  | shown {action dialog} : (∀ message, dialog ≠ .error message) → dialog ≠ .welcome →
      SignUpStep sw isSpace hasJPEG isPhotoOf vc action { vc with presented := some dialog }
  | dismissed {action} : SignUpStep sw isSpace hasJPEG isPhotoOf vc action vc.dismiss
  | picked {image} : image ≠ some (.named "persona") →
      SignUpStep sw isSpace hasJPEG isPhotoOf vc (.picked image) (vc.picked image)
  | login {callback login} : callback.isCallback = true →
      (loginApp isPhotoOf).step vc.login callback login →
      SignUpStep sw isSpace hasJPEG isPhotoOf vc (.login callback) { vc with login }

open SignUpVC

theorem SignUpVC.present_of_none {dialog : SignUpDialog} (h : vc.presented = none) :
    vc.present dialog = { vc with presented := some dialog } := by
  rw [present, h, Option.none_or]

theorem signUpStep_signUp (h : vc.presented = none) :
    SignUpStep sw isSpace hasJPEG isPhotoOf vc .signUp (vc.signUp sw isSpace) := by
  unfold SignUpVC.signUp
  split
  · rename_i message hvalid
    rw [present_of_none h]
    exact .refused hvalid
  · rename_i hvalid
    exact .asked hvalid

theorem signUpStep_createUser {k : Nat} {result : Option String}
    (h : vc.createUser hasJPEG k result = some vc') :
    SignUpStep sw isSpace hasJPEG isPhotoOf vc (.createUser k result) vc' := by
  obtain ⟨asked, hasked, rfl⟩ := Option.map_eq_some_iff.mp h
  cases result with
  | none => exact .notCreated
  | some uid =>
      unfold SignUpVC.created
      dsimp only
      split
      · rename_i hphoto
        exact .trapped hasked hphoto
      · rename_i photo hphoto
        exact .created hasked hphoto

theorem signUpStep_ok (h : vc.next sw isSpace hasJPEG isPhotoOf .ok = some vc') :
    SignUpStep sw isSpace hasJPEG isPhotoOf vc .ok vc' := by
  simp only [SignUpVC.next] at h
  split at h
  · obtain rfl := Option.some.inj h
    exact .dismissed
  · obtain rfl := Option.some.inj h
    unfold SignUpVC.welcomeOk
    split
    · rw [present_of_none rfl]
      exact .shown nofun nofun
    · exact .dismissed
  · exact absurd h (by simp)

/-- A step of the page has one of the listed outcomes. -/
theorem signUpStep_of_step (h : (signUpPage sw isSpace hasJPEG isPhotoOf).step vc a vc') :
    SignUpStep sw isSpace hasJPEG isPhotoOf vc a vc' := by
  replace h : vc.next sw isSpace hasJPEG isPhotoOf a = some vc' := h
  cases a with
  | edit email password confirmPassword =>
      obtain ⟨hnone, h⟩ := Option.ite_none_right_eq_some.mp h
      obtain rfl := Option.some.inj h
      exact .edited hnone
  | signUp =>
      obtain ⟨hnone, h⟩ := Option.ite_none_right_eq_some.mp h
      obtain rfl := Option.some.inj h
      exact signUpStep_signUp hnone
  | createUser k result => exact signUpStep_createUser h
  | userUploadImage | back =>
      obtain ⟨hnone, h⟩ := Option.ite_none_right_eq_some.mp h
      obtain rfl := Option.some.inj h
      rw [present_of_none hnone]
      exact .shown nofun nofun
  | choose =>
      obtain ⟨-, h⟩ := Option.ite_none_right_eq_some.mp h
      obtain rfl := Option.some.inj h
      rw [present_of_none rfl]
      exact .shown nofun nofun
  | picked image =>
      obtain ⟨⟨-, himage⟩, h⟩ := Option.ite_none_right_eq_some.mp h
      obtain rfl := Option.some.inj h
      exact .picked himage
  | ok => exact signUpStep_ok h
  | cancel | closed =>
      obtain ⟨-, h⟩ := Option.ite_none_right_eq_some.mp h
      obtain rfl := Option.some.inj h
      exact .dismissed
  | login a =>
      obtain ⟨hcallback, h⟩ := Option.ite_none_right_eq_some.mp h
      obtain ⟨login, hlogin, rfl⟩ := Option.map_eq_some_iff.mp h
      exact .login hcallback hlogin

/-! ## What the checks see to -/

/-- Trimmed once is trimmed. -/
theorem trimmed_trimmed (s : String) : trimmed isSpace (trimmed isSpace s) = trimmed isSpace s := by
  have hkept : ∀ cs : List Char, ((cs.dropWhile isSpace).rdropWhile isSpace).dropWhile isSpace =
      (cs.dropWhile isSpace).rdropWhile isSpace := by
    intro cs
    refine List.dropWhile_eq_self_iff.mpr fun hpos => ?_
    have hstart := List.rdropWhile_prefix isSpace (cs.dropWhile isSpace)
    have hpos' := hpos.trans_le hstart.length_le
    rw [hstart.getElem hpos]
    exact List.dropWhile_get_zero_not isSpace cs hpos'
  unfold trimmed
  rw [String.toList_ofList, hkept, List.rdropWhile_idempotent]

/-- An e-mail address and a password as the form asks for them. -/
structure Credentials.Checked (isSpace : Char → Bool) (c : Credentials) : Prop where
  filled : c.email ≠ ""
  email : trimmed isSpace c.email = c.email
  password : trimmed isSpace c.password = c.password
  valid : isPasswordValid c.password = true

/-- The form is accepted only if it is filled in, with a photo. -/
theorem checked_of_validateFields {f : SignUpFields} (h : validateFields sw isSpace f = .ok ()) :
    Credentials.Checked isSpace ⟨trimmed isSpace f.email, trimmed isSpace f.password⟩ ∧
      f.userUploadImage ≠ some (.named "persona") := by
  unfold validateFields at h
  dsimp only at h
  split at h
  · exact absurd h (by simp)
  · rename_i hfilled
    split at h
    · exact absurd h (by simp)
    · split at h
      · exact absurd h (by simp)
      · rename_i hvalid
        split at h
        · exact absurd h (by simp)
        · rename_i hphoto
          exact ⟨⟨fun hblank => hfilled (.inl hblank), trimmed_trimmed _, trimmed_trimmed _,
            Bool.eq_true_of_not_eq_false hvalid⟩, hphoto⟩

/-- What the alert says that comes too late, no check says. -/
theorem validateFields_ne (f : SignUpFields) :
    validateFields sw isSpace f ≠ .error "電子信箱格式不符" := by
  unfold validateFields
  dsimp only
  split_ifs <;> simp

/-! ## Accounts and alerts -/

/-- What holds of the page and of what it has asked for. -/
structure SignUpVC.Inv (sw : SwiftString) (isSpace : Char → Bool) (vc : SignUpVC) : Prop where
  requests : ∀ asked ∈ vc.requests, asked.Checked isSpace
  photo : vc.requests ≠ [] → vc.fields.userUploadImage ≠ some (.named "persona")
  accounts : ∀ account ∈ vc.accounts, account.2.Checked isSpace
  users : vc.users = vc.accounts.map fun account => userDocument account.1 account.2.email
  photos : ∀ photo ∈ vc.photos,
    photo.2 ≠ .named "persona" ∧ photo.1 ∈ vc.accounts.map Prod.fst
  alert : ∀ message, vc.presented = some (.error message) →
    validateFields sw isSpace vc.fields = .error message

/-- An account that was asked for is added to those there are. -/
theorem SignUpVC.Inv.added (inv : vc.Inv sw isSpace) {k : Nat} {asked : Credentials} (uid : String)
    (hasked : vc.requests[k]? = some asked) :
    (∀ account ∈ vc.accounts ++ [(uid, asked)], account.2.Checked isSpace) ∧
      vc.users ++ [userDocument uid asked.email] = (vc.accounts ++ [(uid, asked)]).map
        fun account => userDocument account.1 account.2.email := by
  refine ⟨fun account haccount => ?_, by simp [inv.users]⟩
  rcases List.mem_append.mp haccount with hold | hnew
  · exact inv.accounts account hold
  · obtain rfl := List.mem_singleton.mp hnew
    exact inv.requests asked (List.mem_of_getElem? hasked)

/-- The photos there are stay those of accounts. -/
theorem SignUpVC.Inv.kept (inv : vc.Inv sw isSpace) (account : String × Credentials) :
    ∀ photo ∈ vc.photos,
      photo.2 ≠ .named "persona" ∧ photo.1 ∈ (vc.accounts ++ [account]).map Prod.fst := by
  intro photo hphoto
  obtain ⟨hpersona, haccount⟩ := inv.photos photo hphoto
  rw [List.map_append]
  exact ⟨hpersona, List.mem_append_left _ haccount⟩

theorem SignUpStep.inv (h : SignUpStep sw isSpace hasJPEG isPhotoOf vc a vc')
    (inv : vc.Inv sw isSpace) : vc'.Inv sw isSpace := by
  cases h with
  | edited hnone =>
      exact { inv with alert := fun _ hshown => absurd (hnone.symm.trans hshown) (by simp) }
  | refused hvalid =>
      refine { inv with alert := fun message hshown => ?_ }
      obtain rfl := SignUpDialog.error.inj (Option.some.inj hshown)
      exact hvalid
  | asked hvalid =>
      obtain ⟨hchecked, hphoto⟩ := checked_of_validateFields hvalid
      refine { inv with requests := fun asked hasked => ?_, photo := fun _ => hphoto }
      rcases List.mem_append.mp hasked with hold | hnew
      · exact inv.requests asked hold
      · obtain rfl := List.mem_singleton.mp hnew
        exact hchecked
  | notCreated =>
      refine { inv with
        requests := fun asked hasked => inv.requests asked (List.mem_of_mem_eraseIdx hasked)
        photo := fun hne => inv.photo fun hnil => hne ?_ }
      show vc.requests.eraseIdx _ = []
      rw [hnil, List.eraseIdx_nil]
  | trapped hasked _ =>
      obtain ⟨haccounts, husers⟩ := inv.added _ hasked
      exact ⟨nofun, fun hne => absurd rfl hne, haccounts, husers, inv.kept _, nofun⟩
  | created hasked hphoto =>
      obtain ⟨haccounts, husers⟩ := inv.added _ hasked
      obtain ⟨himage, -⟩ := Option.filter_eq_some_iff.mp hphoto
      have hpersona := inv.photo (List.ne_nil_of_mem (List.mem_of_getElem? hasked))
      refine ⟨fun asked hmem => inv.requests asked (List.mem_of_mem_eraseIdx hmem),
        fun _ => hpersona, haccounts, husers, fun photo hmem => ?_, fun message hshown => ?_⟩
      · rcases List.mem_append.mp hmem with hold | hnew
        · exact inv.kept _ photo hold
        · obtain rfl := List.mem_singleton.mp hnew
          exact ⟨fun heq => hpersona (himage.trans (congrArg some heq)), by simp⟩
      · refine inv.alert message ?_
        rcases Option.or_eq_some_iff.mp hshown with hbefore | ⟨-, hwelcome⟩
        · exact hbefore
        · exact absurd hwelcome (by simp)
  | shown herror _ =>
      exact { inv with
        alert := fun message hshown => absurd (Option.some.inj hshown) (herror message) }
  | dismissed => exact { inv with alert := nofun }
  | picked himage => exact { inv with photo := fun _ => himage, alert := nofun }
  | login _ _ => exact { inv with }

theorem inv_of_reachable (h : (signUpPage sw isSpace hasJPEG isPhotoOf).Reachable vc) :
    vc.Inv sw isSpace := by
  refine h.invariant (I := SignUpVC.Inv sw isSpace) ?_ ?_
  · intro vc hopened
    obtain ⟨login, rfl⟩ := hopened
    exact ⟨nofun, fun hne => absurd rfl hne, nofun, rfl, nofun, nofun⟩
  · intro vc a vc' inv hst
    exact (signUpStep_of_step hst).inv inv

/-- However the form is changed, the photo picked again and whatever is presented while
calls are on their way: every account was asked for with an address and a password that
meet the checks, its document names this address, and no photo that is stored is the
picture the form starts with. -/
theorem accounts_checked (h : (signUpPage sw isSpace hasJPEG isPhotoOf).Reachable vc) :
    (∀ account ∈ vc.accounts, account.2.Checked isSpace) ∧
    (vc.users = vc.accounts.map fun account => userDocument account.1 account.2.email) ∧
    ∀ photo ∈ vc.photos, photo.2 ≠ .named "persona" ∧ photo.1 ∈ vc.accounts.map Prod.fst :=
  have inv := inv_of_reachable h
  ⟨inv.accounts, inv.users, inv.photos⟩

/-- A form that is filled in and sent, with a photo of the user's own. -/
def formSent : List SignUpAction :=
  [.edit " a@b.c" "takeit123$" "takeit123$", .userUploadImage, .choose,
    .picked (some (.downloaded "library" ⟨some "me"⟩)), .signUp]

/-- The page with ASCII texts, where every picture has JPEG data. -/
abbrev asciiSignUp : Lts SignUpVC SignUpAction :=
  signUpPage .ascii (· = ' ') (fun _ => true) photoOfTwo

abbrev signUpTrace (as : List SignUpAction) : List (Edge SignUpVC SignUpAction) :=
  Lts.trace (SignUpVC.next .ascii (· = ' ') (fun _ => true) photoOfTwo) (.viewDidLoad .install) as

theorem exists_signUpTrace (as : List SignUpAction) {P : SignUpVC → Prop}
    (h : ∃ vc ∈ Lts.runList (SignUpVC.next .ascii (· = ' ') (fun _ => true) photoOfTwo)
      (.viewDidLoad .install) as, P vc) :
    ∃ vc, asciiSignUp.Run (signUpTrace as) vc ∧ P vc :=
  Lts.exists_run_trace ⟨_, rfl⟩ h

theorem accounts_checked_formSent : ∃ vc, asciiSignUp.Reachable vc ∧
    vc.accounts = [("uid-1", ⟨"a@b.c", "takeit123$"⟩)] ∧
    Credentials.Checked (· = ' ') ⟨"a@b.c", "takeit123$"⟩ := by
  obtain ⟨vc, hrun, hcreated⟩ := exists_signUpTrace
    (P := fun vc => vc.accounts = [("uid-1", ⟨"a@b.c", "takeit123$"⟩)])
    (formSent ++ [.createUser 0 (some "uid-1")]) (by decide +kernel)
  obtain ⟨haccounts, -⟩ := accounts_checked ⟨_, hrun⟩
  rw [hcreated] at haccounts
  exact ⟨vc, ⟨_, hrun⟩, hcreated, haccounts ("uid-1", _) List.mem_cons_self⟩

/-- An alert 錯誤 says what the checks say of the form below it, and so it is never the
one on the format of the address. -/
theorem alert_true {message : String}
    (h : (signUpPage sw isSpace hasJPEG isPhotoOf).Reachable vc)
    (hshown : vc.presented = some (.error message)) :
    validateFields sw isSpace vc.fields = .error message ∧ message ≠ "電子信箱格式不符" := by
  have hvalid := (inv_of_reachable h).alert message hshown
  exact ⟨hvalid, fun hformat => validateFields_ne vc.fields (hformat ▸ hvalid)⟩

/-- The form is sent as it is at first. -/
theorem alert_true_empty : ∃ vc, asciiSignUp.Reachable vc ∧
    vc.presented = some (.error "請填寫所有欄位") ∧
    validateFields .ascii (· = ' ') vc.fields = .error "請填寫所有欄位" := by
  obtain ⟨vc, hrun, hshown⟩ := exists_signUpTrace
    (P := fun vc => vc.presented = some (.error "請填寫所有欄位")) [.signUp] (by decide +kernel)
  exact ⟨vc, ⟨_, hrun⟩, hshown, (alert_true ⟨_, hrun⟩ hshown).1⟩

/-! ## The way to the member page -/

/-- The alert 註冊成功！ is on the screen only while the flag of the e-mail logins is
raised, and the flags are backed. -/
structure SignUpVC.Welcomed (vc : SignUpVC) : Prop where
  backed : FlagsBacked vc.login.defaults
  flag : vc.presented = some .welcome → vc.login.string "user_email_login" = some "1"

/-- What `signUp` has left behind raises and lowers no flag. -/
theorem LoginEffect.string_callback {st : LoginState} {callback : LoginAction}
    {session : Option Session} {defaults : UserDefaults}
    (h : LoginEffect isPhotoOf st callback session defaults)
    (hcallback : callback.isCallback = true) :
    defaults.string "user_email_login" = st.string "user_email_login" := by
  cases h with
  | kept | signedInAgain => rfl
  | photoFound => exact UserDefaults.string_set_ne _ _ (by decide)
  | _ => exact absurd hcallback (by simp [LoginAction.isCallback])

theorem memberGuard_of_isCallback {st : LoginState} {callback : LoginAction}
    (h : callback.isCallback = true) : st.MemberGuard callback := by
  cases callback with
  | signInAnswered | putDataAnswered | downloadURLAnswered => trivial
  | _ => exact absurd h (by simp [LoginAction.isCallback])

theorem SignUpStep.welcomed (h : SignUpStep sw isSpace hasJPEG isPhotoOf vc a vc')
    (hw : vc.Welcomed) : vc'.Welcomed := by
  have hsigned : ∀ (hasData : Bool) (uid : String),
      FlagsBacked (vc.login.exec (.signUp hasData (some uid))).defaults := by
    intro hasData uid
    have hst : (loginApp isPhotoOf).step vc.login (.signUp hasData (some uid))
        (vc.login.exec (.signUp hasData (some uid))) := rfl
    exact (loginEffect_of_step hst).flagsBacked hw.backed trivial
  cases h with
  | edited | asked | notCreated => exact ⟨hw.backed, hw.flag⟩
  | refused | picked | dismissed => exact ⟨hw.backed, nofun⟩
  | trapped => exact ⟨hsigned false _, nofun⟩
  | created => exact ⟨hsigned true _, fun _ => rfl⟩
  | shown _ hwelcome =>
      exact ⟨hw.backed, fun hshown => absurd (Option.some.inj hshown) hwelcome⟩
  | login hcallback hst =>
      have heffect := loginEffect_of_step hst
      refine ⟨heffect.flagsBacked hw.backed (memberGuard_of_isCallback hcallback),
        fun hshown => ?_⟩
      exact (heffect.string_callback hcallback).trans (hw.flag hshown)

theorem welcomed_of_run {es : List (Edge SignUpVC SignUpAction)}
    (h : (signUpPage sw isSpace hasJPEG isPhotoOf).Run es vc)
    (hbacked : FlagsBacked (Lts.origin es vc).login.defaults) : vc.Welcomed := by
  induction h with
  | start hopened =>
      obtain ⟨login, rfl⟩ := hopened
      exact ⟨hbacked, nofun⟩
  | step _ hst ih =>
      rw [Lts.origin_step] at hbacked
      exact (signUpStep_of_step hst).welcomed (ih hbacked)

/-- While 註冊成功！ is on the screen, whatever has called back since, its OK leads to
the member page, and that page comes up, if the flags were backed when the form was
opened. -/
theorem welcome_opens {es : List (Edge SignUpVC SignUpAction)}
    (h : (signUpPage sw isSpace hasJPEG isPhotoOf).Run es vc)
    (hbacked : FlagsBacked (Lts.origin es vc).login.defaults)
    (hshown : vc.presented = some .welcome) :
    ∃ vc', vc.next sw isSpace hasJPEG isPhotoOf .ok = some vc' ∧
      vc'.presented = some .member ∧ vc'.login.memberDidLoad.Returns := by
  have hw := welcomed_of_run h hbacked
  have hflag := hw.flag hshown
  have hset : vc.login.defaults "user_email_login" ≠ none := by
    intro hnone
    rw [LoginState.string, UserDefaults.string, hnone] at hflag
    exact absurd hflag (by simp)
  refine ⟨{ vc with presented := some .member }, ?_, rfl, ?_⟩
  · have hok : vc.dismiss.welcomeOk = { vc with presented := some .member } := by
      refine (if_pos hset).trans ?_
      rw [present_of_none rfl]
      rfl
    simp only [SignUpVC.next, hshown, hok]
  · have hstatus : vc.login.checkStatus = .member := if_pos (.inr (.inr hflag))
    exact hw.backed.memberOpens hstatus

theorem welcome_opens_formSent : ∃ vc vc', asciiSignUp.Reachable vc ∧
    vc.next .ascii (· = ' ') (fun _ => true) photoOfTwo .ok = some vc' ∧
    vc'.presented = some .member ∧ vc'.login.memberDidLoad.Returns := by
  obtain ⟨vc, hrun, hshown⟩ := exists_signUpTrace (P := fun vc => vc.presented = some .welcome)
    (formSent ++ [.createUser 0 (some "uid-1")]) (by decide +kernel)
  obtain ⟨vc', hok, hmember, hreturns⟩ := welcome_opens hrun ⟨nofun, nofun, nofun⟩ hshown
  exact ⟨vc, vc', ⟨_, hrun⟩, hok, hmember, hreturns⟩

end Takeit

import TableDraft.Client
import TableDraft.Profile
import TableDraft.Proofs.Sql.Arguments
import TableDraft.Proofs.Text.Percent
import TableDraft.Proofs.Text.Replace

namespace TableDraft.Profile
open TableDraft.Client TableDraft.Sql TableDraft.Text

variable {profile : Profile} {scheme user rest : String}

/-- The URL that a profile connects to with this password. -/
def urlWith (profile : Profile) (password : String) : String :=
  driverUrl { profile with password := some password }.resolvedUrl

/-- What a URL of the driver is read as. -/
structure Access where
  user : List Char
  password : List Char
  server : List Char
  deriving DecidableEq

/-- The first `@` behind the scheme ends the password, and the first colon in front of it the user. -/
def access (url : String) : Access :=
  let s := url.toList.drop driverScheme.length
  let login := s.takeWhile (· != '@')
  { user := login.takeWhile (· != ':')
    password := (login.dropWhile (· != ':')).drop 1
    server := (s.dropWhile (· != '@')).drop 1 }

theorem colon_toList : ":".toList = [':'] := by
  decide

theorem at_toList : "@".toList = ['@'] := by
  decide

theorem driverUrl_append (h : scheme = "mysql://" ∨ scheme = "mariadb://") (s : String) :
    driverUrl (scheme ++ s) = "mysql+aiomysql://" ++ s := by
  have hfind : schemes.find? (·.isPrefixOf (scheme ++ s).toList) = some scheme.toList := by
    obtain rfl | rfl := h <;> simp [schemes]
  have hdrop : (scheme ++ s).toList.drop scheme.toList.length = s.toList := by simp
  rw [driverUrl, hfind]
  dsimp only
  rw [hdrop, String.ofList_append, String.ofList_toList]
  rfl

theorem access_append {password : String} (hcolon : ':' ∉ user.toList) (hat : '@' ∉ user.toList)
    (hpassword : '@' ∉ password.toList) :
    access ("mysql+aiomysql://" ++ (user ++ ":" ++ password ++ "@" ++ rest)) =
      ⟨user.toList, password.toList, rest.toList⟩ := by
  have hlogin : '@' ∉ user.toList ++ ':' :: password.toList := by
    rw [List.mem_append, List.mem_cons, not_or, not_or]
    exact ⟨hat, by decide, hpassword⟩
  have hdrop : ("mysql+aiomysql://" ++ (user ++ ":" ++ password ++ "@" ++ rest)).toList.drop
      driverScheme.length = user.toList ++ ':' :: password.toList ++ '@' :: rest.toList := by
    rw [String.toList_append, List.drop_left' (by rfl)]
    simp only [String.toList_append, colon_toList, at_toList, List.append_assoc, List.cons_append,
      List.nil_append]
  unfold access
  dsimp only
  rw [hdrop, takeWhile_ne_append hlogin, dropWhile_ne_append hlogin, takeWhile_ne_append hcolon,
    dropWhile_ne_append hcolon]
  rfl

section
variable (hscheme : scheme = "mysql://" ∨ scheme = "mariadb://")
  (hurl : profile.url = scheme ++ user ++ ":[YOUR-PASSWORD]@" ++ rest)
  (huser : ¬placeholder <:+: user.toList) (hrest : ¬placeholder <:+: rest.toList)
  {password : String} (hne : password ≠ "")
include hscheme hurl huser hrest hne

theorem resolvedUrl_of_scheme : { profile with password := some password }.resolvedUrl =
      scheme ++ (user ++ ":" ++ String.ofList (Percent.encode password.toList) ++ "@" ++ rest) := by
  have hsome : placeholder ≠ [] := by decide
  have hfront : ∃ front, scheme.toList = front ++ ['/'] ∧ ¬placeholder <:+: front := by
    obtain rfl | rfl := hscheme
    · exact ⟨"mysql:/".toList, by decide, by rw [← occurs_iff_isInfix]; decide⟩
    · exact ⟨"mariadb:/".toList, by decide, by rw [← occurs_iff_isInfix]; decide⟩
  have hmarks : ":[YOUR-PASSWORD]@".toList = ':' :: (placeholder ++ ['@']) := by decide
  obtain ⟨front, hfront, hplain⟩ := hfront
  have hparts : profile.url.toList =
      front ++ '/' :: (user.toList ++ ':' :: (placeholder ++ '@' :: rest.toList)) := by
    simp only [hurl, String.toList_append, hfront, hmarks, List.append_assoc, List.cons_append,
      List.nil_append]
  rw [resolvedUrl]
  dsimp only
  -- A slash, a colon and an `@` stand around the placeholder and are not in it.
  rw [if_neg hne, hparts, replaceAll_append_cons hsome (by decide),
    replaceAll_append_cons hsome (by decide), replaceAll_append_cons hsome (by decide),
    replaceAll_eq_self hplain, replaceAll_eq_self huser, replaceAll_eq_self hrest,
    replaceAll_self hsome]
  apply String.toList_injective
  simp only [String.toList_ofList, String.toList_append, hfront, colon_toList, at_toList,
    List.append_assoc, List.cons_append, List.nil_append]

theorem urlWith_of_scheme : profile.urlWith password = "mysql+aiomysql://" ++
    (user ++ ":" ++ String.ofList (Percent.encode password.toList) ++ "@" ++ rest) := by
  rw [urlWith, resolvedUrl_of_scheme hscheme hurl huser hrest hne, driverUrl_append hscheme]

theorem access_urlWith (hcolon : ':' ∉ user.toList) (hat : '@' ∉ user.toList) :
    access (profile.urlWith password) =
      ⟨user.toList, Percent.encode password.toList, rest.toList⟩ := by
  have hmark : '@' ∉ (String.ofList (Percent.encode password.toList)).toList := by
    rw [String.toList_ofList]
    exact (Percent.isEncoded_encode _).not_mem (by decide) (by decide) (by decide)
  rw [urlWith_of_scheme hscheme hurl huser hrest hne, access_append hcolon hat hmark,
    String.toList_ofList]

end

/-- Whatever the password, the URL leads to the same user and server, and has nothing in the place of
the password but the password, percent-encoded. Two passwords have two URLs. -/
theorem driverUrl_resolvedUrl (profile : Profile) {scheme user rest : String}
    (hscheme : scheme = "mysql://" ∨ scheme = "mariadb://")
    (hurl : profile.url = scheme ++ user ++ ":[YOUR-PASSWORD]@" ++ rest)
    (hcolon : ':' ∉ user.toList) (hat : '@' ∉ user.toList)
    (huser : ¬placeholder <:+: user.toList) (hrest : ¬placeholder <:+: rest.toList) :
    (∀ password, password ≠ "" → ∃ encoded : String,
      profile.urlWith password = "mysql+aiomysql://" ++ (user ++ ":" ++ encoded ++ "@" ++ rest) ∧
      Percent.IsEncoded encoded.toList ∧
      access (profile.urlWith password) = ⟨user.toList, encoded.toList, rest.toList⟩ ∧
      Percent.decode encoded.toList = password.toList) ∧
    ∀ p q, p ≠ "" → q ≠ "" → profile.urlWith p = profile.urlWith q → p = q := by
  constructor
  · intro password hne
    refine ⟨_, urlWith_of_scheme hscheme hurl huser hrest hne, ?_, ?_, ?_⟩
    · rw [String.toList_ofList]
      exact Percent.isEncoded_encode _
    · rw [access_urlWith hscheme hurl huser hrest hne hcolon hat, String.toList_ofList]
    · rw [String.toList_ofList, Percent.decode_encode]
  · intro p q hp hq hpq
    have haccess := congrArg access hpq
    rw [access_urlWith hscheme hurl huser hrest hp hcolon hat,
      access_urlWith hscheme hurl huser hrest hq hcolon hat] at haccess
    exact String.toList_injective (Percent.encode_injective (congrArg Access.password haccess))

theorem driverUrl_resolvedUrl_marks :
    let profile : Profile := ⟨"mysql://root:[YOUR-PASSWORD]@db:3306/shop", "", none, "mysql"⟩
    (∃ encoded : String,
      profile.urlWith "@/:%[YOUR-PASSWORD]é" =
        "mysql+aiomysql://" ++ ("root" ++ ":" ++ encoded ++ "@" ++ "db:3306/shop") ∧
      Percent.IsEncoded encoded.toList ∧
      access (profile.urlWith "@/:%[YOUR-PASSWORD]é") =
        ⟨"root".toList, encoded.toList, "db:3306/shop".toList⟩ ∧
      Percent.decode encoded.toList = "@/:%[YOUR-PASSWORD]é".toList) ∧
    profile.urlWith "@/:%[YOUR-PASSWORD]é" ≠ profile.urlWith "%40" := by
  intro profile
  have hall := driverUrl_resolvedUrl profile (.inl rfl)
    (show _ = "mysql://" ++ "root" ++ ":[YOUR-PASSWORD]@" ++ "db:3306/shop" by decide) (by decide)
    (by decide) (by rw [← occurs_iff_isInfix]; decide) (by rw [← occurs_iff_isInfix]; decide)
  exact ⟨hall.1 _ (by decide), fun h => absurd (hall.2 _ _ (by decide) (by decide) h) (by decide)⟩

example : urlWith ⟨"mariadb://root:[YOUR-PASSWORD]@db", "", none, "mysql"⟩ "a@b:é" =
    "mysql+aiomysql://root:a%40b%3A%C3%A9@db" := by
  decide

end TableDraft.Profile

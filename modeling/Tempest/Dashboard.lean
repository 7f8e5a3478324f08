import Mathlib.Data.List.Basic

/-!
# The login form of the dashboard test

`TestDashboardBasicOps.user_login` (`scenario/test_dashboard_basic_ops.py`) posts the
login form with the CSRF token and the region that `HorizonHTMLParser` read off the login
page.  The parser is a state machine over the start tags the library's `HTMLParser`
reports, in document order: `handle_starttag` sets `csrf_token` (or `region`) to the
`value` of each `input` tag whose `name` is `csrfmiddlewaretoken` (or `region`).

* `feed_field`: one step lemma per field gives, by induction over the page, the field
  after the whole page: the value of the last matching `input` tag, or what it held
  before when there is none;
* `userLogin_posts_last_values`: the form `user_login` posts.

The tokenizer of `HTMLParser` and the `urllib2` requests are library code and are left
out, and so are `check_login_page` and `check_home_page`, which only look for a text in a
page.
-/

namespace Tempest

/-! ## The parser -/

/-- `HorizonHTMLParser`'s two class attributes, `None` until set. -/
structure HorizonHTMLParser where
  csrfToken : Option String := none
  region : Option String := none
  deriving DecidableEq, Repr

/-- `_find_name(attrs, name)`: some attribute is `name="…"` with that value; an
attribute without a value is `None`. -/
def findName (attrs : List (String × Option String)) (name : String) : Bool :=
  attrs.any fun a => a.1 == "name" && a.2 == some name

/-- `_find_value(attrs)`: the value of the first `value` attribute, or `None`. -/
def findValue (attrs : List (String × Option String)) : Option String :=
  match attrs.find? (·.1 == "value") with
  | some a => a.2
  | none => none

/-- **`HorizonHTMLParser.handle_starttag(tag, attrs)`**. -/
def handleStarttag (p : HorizonHTMLParser) (tag : String)
    (attrs : List (String × Option String)) : HorizonHTMLParser :=
  if tag = "input" then
    let p := if findName attrs "csrfmiddlewaretoken" then { p with csrfToken := findValue attrs }
      else p
    if findName attrs "region" then { p with region := findValue attrs } else p
  else p

/-- `parser.feed(page)`: `handle_starttag` on each start tag of the page, in order. -/
def feed (p : HorizonHTMLParser) (tags : List (String × List (String × Option String))) :
    HorizonHTMLParser :=
  tags.foldl (fun p t => handleStarttag p t.1 t.2) p

/-- The form `user_login` posts: `username`, `password`, `region`,
`csrfmiddlewaretoken`. -/
def loginParams (username password : String) (p : HorizonHTMLParser) :
    List (String × Option String) :=
  [("username", some username), ("password", some password), ("region", p.region),
    ("csrfmiddlewaretoken", p.csrfToken)]

/-! ## What the parser reads -/

/-- An `input` start tag named `name`. -/
def isNamedInput (name : String) (t : String × List (String × Option String)) : Bool :=
  t.1 == "input" && findName t.2 name

/-- The value a field named `name` ends with: that of the last `input` tag named `name`,
or `d` when there is none. -/
def lastValue (name : String) (tags : List (String × List (String × Option String)))
    (d : Option String) : Option String :=
  match (tags.filter (isNamedInput name)).getLast? with
  | some t => findValue t.2
  | none => d

/-- The step lemma for `csrf_token`: an `input` tag named `csrfmiddlewaretoken` sets it,
whatever the tag says of `region`; any other tag leaves it. -/
theorem handleStarttag_csrfToken (p : HorizonHTMLParser) (t : String × List (String × Option String)) :
    (handleStarttag p t.1 t.2).csrfToken =
      if isNamedInput "csrfmiddlewaretoken" t then findValue t.2 else p.csrfToken := by
  rw [handleStarttag, isNamedInput]
  split_ifs <;> simp_all

/-- The step lemma for `region`: an `input` tag named `region` sets it; any other tag
leaves it. -/
theorem handleStarttag_region (p : HorizonHTMLParser) (t : String × List (String × Option String)) :
    (handleStarttag p t.1 t.2).region =
      if isNamedInput "region" t then findValue t.2 else p.region := by
  rw [handleStarttag, isNamedInput]
  split_ifs <;> simp_all

/-- The run lemma: a field that each step sets to the value of a matching tag, and
leaves alone otherwise, ends with the value of the last matching tag. -/
theorem feed_field (get : HorizonHTMLParser → Option String) (name : String)
    (hstep : ∀ p t, get (handleStarttag p t.1 t.2) =
      if isNamedInput name t then findValue t.2 else get p) :
    ∀ (tags : List (String × List (String × Option String))) (p : HorizonHTMLParser),
      get (feed p tags) = lastValue name tags (get p)
  | [], _ => rfl
  | t :: tags, p => by
    rw [feed, List.foldl_cons, ← feed, feed_field get name hstep tags, hstep]
    unfold lastValue
    rcases h : (tags.filter (isNamedInput name)).getLast? with _ | t'
    · have hnil := List.getLast?_eq_none_iff.1 h
      by_cases hm : isNamedInput name t <;> simp [List.filter_cons, hm, hnil]
    · by_cases hm : isNamedInput name t <;> simp [List.filter_cons, hm, List.getLast?_cons, h]

/-- **The form carries what the page said last.**  For every login page, `user_login`
posts as `region` and as `csrfmiddlewaretoken` the `value` of the last `input` tag of the
page with that `name` (`None` when that tag has no value, or when the page has no such
tag), whatever the other tags are. -/
theorem userLogin_posts_last_values (username password : String)
    (tags : List (String × List (String × Option String))) :
    loginParams username password (feed {} tags) =
      [("username", some username), ("password", some password),
        ("region", lastValue "region" tags none),
        ("csrfmiddlewaretoken", lastValue "csrfmiddlewaretoken" tags none)] := by
  rw [loginParams, feed_field HorizonHTMLParser.region "region" handleStarttag_region,
    feed_field HorizonHTMLParser.csrfToken "csrfmiddlewaretoken" handleStarttag_csrfToken]

end Tempest

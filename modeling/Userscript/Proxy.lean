import Userscript.Config
import Userscript.Proxy.Body
import Userscript.Proxy.Cookies
import Userscript.Session.Markup
import Userscript.Session.Rounds

/-!
# Userscript.Proxy

Pages on their way through a proxy.

A page that is asked for from the web is taken through its whole life before it goes on: the engine is attached,
the source is read, all is loaded. Then styles and badge are put into its markup, and a header tells how many
runs came to their end. If anything goes wrong, the response goes on as it came. What scripts put off is done
after the response.

* `Proxy.wants` tells whether a response is touched at all;
* `Proxy.handle` takes a flow through the proxy.
-/

namespace Userscript

namespace Proxy

structure Response where
  contentType : Option String := none
  body : List UInt8 := []
  /-- The header that counts the runs. -/
  runs : Option Nat := none
deriving DecidableEq

/-- A request, and the response to it if there is one yet. -/
structure Flow where
  url : String
  method : String := "GET"
  /-- The cookies of the request, as its header has them. -/
  cookies : String := ""
  response : Option Response := none
deriving DecidableEq

namespace Response

/-- The content type as text; nothing if there is none. -/
def kind (r : Response) : String := r.contentType.getD ""

/-- Whether the response is markup, and not too large. -/
def isPage (c : Config) (r : Response) : Bool :=
  Text.holds "text/html" (Text.lower r.kind) && r.body.length ≤ c.proxy.largestPage

end Response

/-- Whether the response of a flow is touched. -/
def wants (c : Config) (f : Flow) : Bool :=
  f.response.any fun r => Text.upper f.method = "GET" && Url.isWeb f.url && r.isPage c

end Proxy

/-- What stays in a proxy from page to page. -/
structure Proxy (σ : Type) where
  storage : Storage
  /-- The state of the engine behind the bridge. -/
  engine : σ
  /-- The requests that the network saw. -/
  seen : List Net.Request := []
  /-- The number of the next style. -/
  nextStyle : Nat := 1
  log : Log := []

namespace Proxy

variable {σ : Type}

def page (c : Config) (f : Flow) (p : Proxy σ) : Session σ where
  document := { url := f.url, nextStyle := p.nextStyle, indicator := { badge := c.badge } }
  storage := p.storage
  relay := Relay.new ((Cookies.ofHeader f.cookies).map fun (k, v) => (k, some v)) c.requests.userAgent
    c.requests.followsRedirects
  engine := p.engine
  seen := p.seen
  log := p.log

def ofPage (s : Session σ) : Proxy σ := ⟨s.storage, s.engine, s.seen, s.document.nextStyle, s.log⟩

/-- The log's line for a response that goes on as it came. -/
def skipped (f : Flow) (reason : String) : LogLine :=
  .fail ("[Proxy] Userscripts skipped for " ++ f.url ++ ": " ++ reason)

/-- Takes a page through its life until its scripts ran. -/
def live (set : Setting σ) (s : Session σ) : Session σ :=
  (s.attach.finishParsing.finishLoading.waitIdle set).2

/-- The response of a page that lived. -/
def rewritten (set : Setting σ) (f : Flow) (r : Response) (original : String) (s : Session σ) :
    Response × Session σ :=
  match s.render set original with
  | (.ok markup, s) => ({ r with body := Body.ofText r.kind markup, runs := some s.runCount }, s)
  | (.error t, s) => (r, s.write (skipped f (t.display s.memory)))

/-- Takes a page and its response through the proxy. -/
def handlePage (set : Setting σ) (c : Config) (f : Flow) (r : Response) (p : Proxy σ) : Response × Proxy σ :=
  match Body.text? r.kind r.body with
  | none => (r, { p with log := p.log ++ [skipped f "the body is no text in its charset"] })
  | some original =>
    let (r, s) := rewritten set f r original (live set (p.page c f))
    (r, ofPage (s.settle set))

/-- Takes a flow through the proxy. -/
def handle (set : Setting σ) (c : Config) (f : Flow) (p : Proxy σ) : Flow × Proxy σ :=
  match f.response with
  | none => (f, p)
  | some r =>
    if wants c f then
      let (r, p) := handlePage set c f r p
      ({ f with response := some r }, p)
    else (f, p)

end Proxy
end Userscript

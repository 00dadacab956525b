import GraphProbe.Resource.Installed
import GraphProbe.Settings

/-!
# The site's documents and settings

The site ships one document inside its own package (`graphql/hello.graphql` of
`example_project.website`), and the tests beside it keep theirs in `tests/resources`: three
subscriptions of the site's schema, one of a field it lacks, and one query. After a test's
working directory, package lookups reach the installed kit and then the repository.

The site configures the kit in its own section: subscriptions at `subscriptions`, queries at
`/graphql/`, documents searched in `tests/resources`, polling every 100 ms and waiting
10 seconds for an acknowledgement.
-/

namespace GraphProbe.Site

/-- A file of text. -/
def textFile (text : String) : Entry := .file text.toUTF8.toList

/-- The files of the site and its tests, by their paths in the repository. -/
def documents : FileTree := FileTree.ofListing [
  ("example_project/__init__.py", textFile ""),
  ("example_project/website/__init__.py", textFile ""),
  ("example_project/website/graphql/hello.graphql",
    textFile "query Hello($name: String) \x7b\n    hello(name: $name)\n\x7d\n"),
  ("tests/resources/subscriptions/countdown.graphql",
    textFile "subscription Countdown($start: Int!, $interval: Float) \x7b\n    countdown(start: $start, interval: $interval)\n\x7d\n"),
  ("tests/resources/subscriptions/failing.graphql",
    textFile "subscription Failing \x7b\n    failing\n\x7d\n"),
  ("tests/resources/subscriptions/silence.graphql",
    textFile "subscription Silence \x7b\n    silence\n\x7d\n"),
  ("tests/resources/subscriptions/unknown-field.graphql",
    textFile "subscription Unknown \x7b\n    doesNotExist\n\x7d\n"),
  ("tests/resources/queries/test-shout-query.graphql",
    textFile "query Shout \x7b\n    shout(text: \"this should be uppercase\")\n\x7d\n")]

/-- The trees after the working directory on the module path: the installed kit, then the
repository, which makes the site's package importable. -/
def modulePath : List FileTree := [Resource.installedKit, documents]

/-- The directory the tests keep their documents in. -/
def documentDir : String := Location.rootName ++ "/tests/resources"

/-- The site's configuration. -/
def settings : Settings := some [
  ("GRAPHQL_URL", .str "graphql/"),
  (Settings.sectionKey, .obj [
    ("SUBSCRIPTION_PATH", .str "subscriptions"),
    ("GRAPHQL_URL", .str "/graphql/"),
    ("RESOURCE_DIRS", .arr [.str documentDir]),
    ("POLL_INTERVAL_MS", .int 100),
    ("ACKNOWLEDGEMENT_TIMEOUT_MS", .int 10000)])]

end GraphProbe.Site

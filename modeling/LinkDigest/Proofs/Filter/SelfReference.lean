import LinkDigest.Proofs.Filter.Strictness
import LinkDigest.Proofs.Url.Relative

/-!
# Self-references

The links of an article are read against the place it stands at and written anew; the filter
reads what was written, and the place by itself. For relative links both ways lead to one host:
where articles that link to their own site do not count, an article never counts for them.
-/

namespace LinkDigest

namespace Filter

open Url

/-- The relative links of an article that stands at a place of the web name the host of that
place, and where self-references do not count it never counts for one of them. -/
theorem relative_selfReference {article : Article} {base : String} {url : Url}
    {link found : List Char} (hbase : article.baseUrl = some base)
    (hplace : place? base.toList = some url) (hweb : url.isWeb) (hlink : IsRelative link)
    (hfound : canonicalLink? link (some base.toList) = some found) :
    (hostOf? found = hostOf? base.toList ∧ (hostOf? base.toList).isSome) ∧
      ∀ filter : Filter, filter.suppressSelf → ∀ now,
        filter.articlePasses (hostOf? found) now article = false ∧
        ∀ cluster : Cluster, cluster.url.toList = found →
          article ∉ Pipeline.survivors filter now cluster := by
  obtain ⟨read, hread, -⟩ := exists_parse?_of_canonicalLink? hfound
  have hhost : read.host = url.host := by
    rw [Option.bind_some, hplace] at hread
    exact hlink.staysAtHost.host_of_parse? hweb hread
  obtain ⟨hsame, hsome⟩ := hostOf?_eq hfound hread hplace hhost
  have hown : isSelfReference (hostOf? found) article := by
    simp [isSelfReference, ownHost?, hbase, hsame, hsome]
  refine ⟨⟨hsame, hsome⟩, fun filter hset now => ?_⟩
  have hfails : filter.articlePasses (hostOf? found) now article = false := by
    rw [← Bool.not_eq_true, articlePasses_iff]
    rintro ⟨-, -, -, hself, -⟩
    exact absurd hown (by simp [hself hset])
  refine ⟨hfails, ?_⟩
  rintro cluster rfl hmem
  exact absurd (List.mem_filter.mp hmem).2 (by simp [hfails])

/-- An article that stands behind a user name, at an address and a port of its own. -/
def atAddress : Article :=
  ⟨.issued [1], "article", ⟨.issued [0], "feed", some "http://y.test/", 5, ["tech"], true⟩,
    some " https://User:pw@[2001:DB8::1]:8443/A/b.html?q#f", ⟨1700000000, 0⟩, false, [], none⟩

/-- Its link leads above the root and ends in a query and a fragment with slashes. -/
theorem relative_selfReference_atAddress :
    let link := " ../C/./%2E%2e/../É?x=//y#//Z/ ".toList
    let found := "https://user:pw@[2001:db8::1]:8443/%c3%a9?x=//y#//z".toList
    IsRelative link ∧ canonicalLink? link (atAddress.baseUrl.map String.toList) = some found ∧
      hostOf? found = some "[2001:db8::1]".toList ∧
      ∀ filter : Filter, filter.suppressSelf → ∀ now,
        filter.articlePasses (hostOf? found) now atAddress = false := by
  intro link found
  have hplace : place? " https://User:pw@[2001:DB8::1]:8443/A/b.html?q#f".toList = some
      ⟨"https".toList, "User".toList, "pw".toList, some (.ipv6 [0x2001, 0xDB8, 0, 0, 0, 0, 0, 1]),
        some 8443, .segments ["A".toList, "b.html".toList], some "q".toList,
        some "f".toList⟩ := by decide +kernel
  have hlink : IsRelative link :=
    ⟨by decide, by decide, List.forall_iff_forall_mem.mp (by decide), by decide⟩
  have hfound : canonicalLink? link (atAddress.baseUrl.map String.toList) = some found := by
    decide +kernel
  have hbase : atAddress.baseUrl = some " https://User:pw@[2001:DB8::1]:8443/A/b.html?q#f" := rfl
  obtain ⟨-, hpasses⟩ := relative_selfReference hbase hplace (by decide) hlink hfound
  exact ⟨hlink, hfound, by decide +kernel, fun filter hset now => (hpasses filter hset now).1⟩

end Filter

end LinkDigest

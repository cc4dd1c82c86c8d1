/-!
Scripts with the characters that are used in them besides those that belong to them alone.
-/

namespace StyleGuide.CharSet

/-- What a script has besides its own characters. -/
def scriptExtensionTables : List (List String × List String) := [
  (["Adlm"], ["17j w 55a 2r5"]),
  (["Aghb"], ["lg 18*2"]),
  (["Arab"], ["170 e 3 w a.b q 53y 2r5 14vw.2 140.s"]),
  (["Armn"], ["lk"]),
  (["Avst"], ["53 8zc.2"]),
  (["Beng"], ["jg 1as.2 h.2 3u2 1 2.2 1 8*2 2 4 2.3 rnd"]),
  (["Bopo"], ["jr 1.3 d 8x3.3 4.a 1.d a.4 2 6 5f 14jt.2 7u.5"]),
  (["Bugi"], ["xjj"]),
  (["Buhd"], ["4l1.2"]),
  (["Cakm"], ["1ye.a 18w.a"]),
  (["Cari"], ["53 68y 2 2qb"]),
  (["Cher"], ["lc.3 1 6.2 m.2 b.2"]),
  (["Copt"], ["53 g8 3.2 1 30.2 8f5 1614.s"]),
  (["Cpmn"], ["1erk.2"]),
  (["Cprt"], ["1erk.3 4.19 3.9"]),
  (["Cyrl"], ["jg 1v.3 1*3 2 5 ab.2 50x 37u"]),
  (["Deva"], ["jg 1as.2 h.2 3u2.13 1.2 s6 qpr.a"]),
  (["Dogr"], ["1us.c vcw.a"]),
  (["Dupl"], ["53 gf.2 1 o.2 8if 26oz.4"]),
  (["Elba"], ["53 gd"]),
  (["Ethi"], ["lq"]),
  (["Gara"], ["170 e 3"]),
  (["Geor"], ["53 y9 29d 31a 2qe"]),
  (["Glag"], ["53 gb 1 am 2 75 29d 31a 2qw nqj"]),
  (["Gong"], ["53 1po.2"]),
  (["Gonm"], ["1us.2"]),
  (["Goth"], ["53 gc.2 2 14"]),
  (["Gran"], ["1u9.2 h.2 hs.e 3bw 1.2 u.3 3.2 s6 1buy 2hg.2 1"]),
  (["Grek"], ["53 g8.2 2 1*2 a 1a 2 1a 56z.2 ij"]),
  (["Gujr"], ["1u9.2 h.2 vd6.a"]),
  (["Gukh"], ["1ut"]),
  (["Guru"], ["1u9.2 h.2 vd6.a"]),
  (["Hang"], ["9hd.3 4.a 1.d g 6 5f 14jt.2 7u.5"]),
  (["Hani"], [
    "53 9bs.g 1.3 2 1.a 1.d a.4 2 6 4.4 57 44.g w.12 9 1c.14 1k.1d f.c 1f 2g.p a.5 2o.v mpt.8",
    "h8d.2 7u.5 15ve.i 63i.2"]),
  (["Hano"], ["4l1.2"]),
  (["Hebr"], ["lj.2"]),
  (["Hira"], ["9hd.3 4.a 1.d g.6 1 4.2 2j.4 3 2i.2 14js.2 7u.5 a 19.2"]),
  (["Hung"], ["6e2 2 2qb f"]),
  (["Java"], ["xjj"]),
  (["Kali"], ["xf2"]),
  (["Kana"], ["lh t 8v1.3 4.a 1.d g.6 1 4.2 2j.4 3 2i.2 14js.2 7u.5 a 19.2"]),
  (["Khoj"], ["25i.a v28.a"]),
  (["Knda"], ["1u9.2 h.2 3u2 1.2 6 n 1 ri3.6"]),
  (["Kthi"], ["1uu.a 79d o3i.a"]),
  (["Latn"], [
    "53 ec a 1.3 1 9 1 12.f 1.2 1 c 2.3 7.2 1.2 12 5 4.d 7p.2 y2.2 1ig 2kc fq 5c 2li nvs.8 fa"]),
  (["Limb"], ["1ut"]),
  (["Lina"], ["1err.19"]),
  (["Linb"], ["1erk.3 4.19 3.9"]),
  (["Lisu"], ["jg g 8xo.2"]),
  (["Lyci"], ["6e2"]),
  (["Lydi"], ["53 8zd"]),
  (["Mahj"], ["53 1po.c vcw.a"]),
  (["Mand"], ["18g"]),
  (["Mani"], ["18g"]),
  (["Mero"], ["6e5"]),
  (["Mlym"], ["1u9.2 h.2 3uc n ri5.3"]),
  (["Modi"], ["x80.a"]),
  (["Mong"], ["4qq.2 1 1m1 34h.2 5.4"]),
  (["Mult"], ["21y.a"]),
  (["Mymr"], ["xf2"]),
  (["Nand"], ["1us.2 ow.a 35l 8 7 rhx.6"]),
  (["Nkoo"], ["170 e 3 1cta.2"]),
  (["Onao"], ["1us.2"]),
  (["Orkh"], ["6e2 2qd"]),
  (["Orya"], ["1u9.2 h.2 3uc n"]),
  (["Osge"], ["ld 2 6 24"]),
  (["Ougr"], ["18g 1fht"]),
  (["Perm"], ["53 g8 5.3 a a7"]),
  (["Phag"], ["4qq.2 1 1m1 34i"]),
  (["Phlp"], ["18g"]),
  (["Rohg"], ["170 e 3 w 43"]),
  (["Runr"], ["4iz.3"]),
  (["Samr"], ["94h"]),
  (["Shaw"], ["53"]),
  (["Shrd"], ["1u9 3ut 1 2.2 2 rin.6 2"]),
  (["Sind"], ["1us.2 vd6.a"]),
  (["Sinh"], ["1us.2 3v0"]),
  (["Sogd"], ["18g"]),
  (["Sunu"], ["lc.2 1 9 2 s 3"]),
  (["Sylo"], ["1us.2 3k.a"]),
  (["Syrc"], ["lf.2 2.2 1 l 2.3 7.2 1.2 ka e.2 2 w a.b q 4nb 1"]),
  (["Tagb"], ["4l1.2"]),
  (["Takr"], ["1us.2 vd6.a"]),
  (["Tale"], ["lc.2 5.2 3 2lv.a"]),
  (["Taml"], ["1u9.2 h.2 3uc ro8 ky5 1 1j.2"]),
  (["Tang"], ["9gw.g dr"]),
  (["Telu"], ["1u9.2 h.2 3uc n"]),
  (["Tfng"], ["le 1 2 1"]),
  (["Tglg"], ["4l1.2"]),
  (["Thaa"], ["170 e.2 2 1s.a 1cw8 a"]),
  (["Thai"], ["jg q 17 19"]),
  (["Tibt"], ["9hk.4"]),
  (["Tirh"], ["1u9.2 h.2 3v0 ri5.a"]),
  (["Todr"], ["ld 2*2 9 1 22"]),
  (["Toto"], ["jg"]),
  (["Tutg"], ["2jq.a 35u 1 ri3.6 57"]),
  (["Yezi"], ["170 e 3 1s.a"]),
  (["Yiii"], ["9hd.2 5.a 2.8 67 14rp.5"])]

/-- The characters of a script that are used in others. -/
def scriptSharedTables : List (List String × List String) := [
  (["Zinh"], [
    "lc.f 1.2 1 c 2.3 7.2 1.2 g 2 i 5 4.d 7p.2 ck.b q kg.2 3ul.3 1.d 1.7 4 6 3.2 5i.2 1i 1 l1",
    "309.4 2z.2 15j9 38a"]),
  (["Zyyy"], [
    "53 ec a 1.3 1 9 1 4a if e 3 w mb.2 1hx 167.3 1z.2 5n.2 1 y5 d 7.4 1.6 1.3 2 ms v a 2 2pl",
    "o.2 a 4 1 bw.g 1.3 2 1.a 1.d g.6 1 4.4 2j.2 3 2i.2 43.g w.12 9 1c.14 1k.1d f.c 1f 2g.p a.5",
    "2o.v mpt.8 88.a 6s 4g gha.2 79.2 7u.5 a 19.2 9s.3 4.19 3.9 bl.r 10o4.4 4ho.i 63i.2"])]

end StyleGuide.CharSet

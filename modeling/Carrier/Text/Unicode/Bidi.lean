import Carrier.Text.Unicode.Table

/-!
# Labels written from right to left

The rule of RFC 5893 for the labels of a domain name of which one holds a character that is
written from right to left.

- `Bidi.isRightToLeft`: whether a label holds such a character.
- `Bidi.permitted`: the rule for one label.
-/

namespace Carrier

namespace Text

namespace Bidi

/-- Where the classes begin: 0 L, 1 R, 2 AL, 3 AN, 4 EN, 5 ES, 6 CS, 7 ET, 8 ON, 9 BN, a NSM, b any
other. -/
def kinds : Table := Table.read
  ["0 9,9 b,e 9,1c b,21 8,23 7,26 8,2b 5,2c 6,2d 5,2e 6,30 4,3a 6,3b 8,41 0,5b 8,61 0,7b 8,7f 9,",
   "85 b,86 9,a0 6,a1 8,a2 7,a6 8,aa 0,ab 8,ad 9,ae 8,b0 7,b2 4,b4 8,b5 0,b6 8,b9 4,ba 0,bb 8,",
   "c0 0,d7 8,d8 0,f7 8,f8 0,2b9 8,2bb 0,2c2 8,2d0 0,2d2 8,2e0 0,2e5 8,2ee 0,2ef 8,300 a,370 0,",
   "374 8,376 0,37e 8,37f 0,384 8,386 0,387 8,388 0,3f6 8,3f7 0,483 a,48a 0,58a 8,58b 0,58d 8,",
   "58f 7,590 1,591 a,5be 1,5bf a,5c0 1,5c1 a,5c3 1,5c4 a,5c6 1,5c7 a,5c8 1,600 3,606 8,608 2,",
   "609 7,60b 2,60c 6,60d 2,60e 8,610 a,61b 2,64b a,660 3,66a 7,66b 3,66d 2,670 a,671 2,6d6 a,",
   "6dd 3,6de 8,6df a,6e5 2,6e7 a,6e9 8,6ea a,6ee 2,6f0 4,6fa 2,711 a,712 2,730 a,74b 2,7a6 a,",
   "7b1 2,7c0 1,7eb a,7f4 1,7f6 8,7fa 1,7fd a,7fe 1,816 a,81a 1,81b a,824 1,825 a,828 1,829 a,",
   "82e 1,859 a,85c 1,860 2,890 3,892 2,898 a,8a0 2,8ca a,8e2 3,8e3 a,903 0,93a a,93b 0,93c a,",
   "93d 0,941 a,949 0,94d a,94e 0,951 a,958 0,962 a,964 0,981 a,982 0,9bc a,9bd 0,9c1 a,9c5 0,",
   "9cd a,9ce 0,9e2 a,9e4 0,9f2 7,9f4 0,9fb 7,9fc 0,9fe a,9ff 0,a01 a,a03 0,a3c a,a3d 0,a41 a,",
   "a43 0,a47 a,a49 0,a4b a,a4e 0,a51 a,a52 0,a70 a,a72 0,a75 a,a76 0,a81 a,a83 0,abc a,abd 0,",
   "ac1 a,ac6 0,ac7 a,ac9 0,acd a,ace 0,ae2 a,ae4 0,af1 7,af2 0,afa a,b00 0,b01 a,b02 0,b3c a,",
   "b3d 0,b3f a,b40 0,b41 a,b45 0,b4d a,b4e 0,b55 a,b57 0,b62 a,b64 0,b82 a,b83 0,bc0 a,bc1 0,",
   "bcd a,bce 0,bf3 8,bf9 7,bfa 8,bfb 0,c00 a,c01 0,c04 a,c05 0,c3c a,c3d 0,c3e a,c41 0,c46 a,",
   "c49 0,c4a a,c4e 0,c55 a,c57 0,c62 a,c64 0,c78 8,c7f 0,c81 a,c82 0,cbc a,cbd 0,ccc a,cce 0,",
   "ce2 a,ce4 0,d00 a,d02 0,d3b a,d3d 0,d41 a,d45 0,d4d a,d4e 0,d62 a,d64 0,d81 a,d82 0,dca a,",
   "dcb 0,dd2 a,dd5 0,dd6 a,dd7 0,e31 a,e32 0,e34 a,e3b 0,e3f 7,e40 0,e47 a,e4f 0,eb1 a,eb2 0,",
   "eb4 a,ebd 0,ec8 a,ecf 0,f18 a,f1a 0,f35 a,f36 0,f37 a,f38 0,f39 a,f3a 8,f3e 0,f71 a,f7f 0,",
   "f80 a,f85 0,f86 a,f88 0,f8d a,f98 0,f99 a,fbd 0,fc6 a,fc7 0,102d a,1031 0,1032 a,1038 0,",
   "1039 a,103b 0,103d a,103f 0,1058 a,105a 0,105e a,1061 0,1071 a,1075 0,1082 a,1083 0,1085 a,",
   "1087 0,108d a,108e 0,109d a,109e 0,135d a,1360 0,1390 8,139a 0,1400 8,1401 0,1680 b,1681 0,",
   "169b 8,169d 0,1712 a,1715 0,1732 a,1734 0,1752 a,1754 0,1772 a,1774 0,17b4 a,17b6 0,17b7 a,",
   "17be 0,17c6 a,17c7 0,17c9 a,17d4 0,17db 7,17dc 0,17dd a,17de 0,17f0 8,17fa 0,1800 8,180b a,",
   "180e 9,180f a,1810 0,1885 a,1887 0,18a9 a,18aa 0,1920 a,1923 0,1927 a,1929 0,1932 a,1933 0,",
   "1939 a,193c 0,1940 8,1941 0,1944 8,1946 0,19de 8,1a00 0,1a17 a,1a19 0,1a1b a,1a1c 0,1a56 a,",
   "1a57 0,1a58 a,1a5f 0,1a60 a,1a61 0,1a62 a,1a63 0,1a65 a,1a6d 0,1a73 a,1a7d 0,1a7f a,1a80 0,",
   "1ab0 a,1acf 0,1b00 a,1b04 0,1b34 a,1b35 0,1b36 a,1b3b 0,1b3c a,1b3d 0,1b42 a,1b43 0,1b6b a,",
   "1b74 0,1b80 a,1b82 0,1ba2 a,1ba6 0,1ba8 a,1baa 0,1bab a,1bae 0,1be6 a,1be7 0,1be8 a,1bea 0,",
   "1bed a,1bee 0,1bef a,1bf2 0,1c2c a,1c34 0,1c36 a,1c38 0,1cd0 a,1cd3 0,1cd4 a,1ce1 0,1ce2 a,",
   "1ce9 0,1ced a,1cee 0,1cf4 a,1cf5 0,1cf8 a,1cfa 0,1dc0 a,1e00 0,1fbd 8,1fbe 0,1fbf 8,1fc2 0,",
   "1fcd 8,1fd0 0,1fdd 8,1fe0 0,1fed 8,1ff0 0,1ffd 8,1fff 0,2000 b,200b 9,200e 0,200f 1,2010 8,",
   "2028 b,202f 6,2030 7,2035 8,2044 6,2045 8,205f b,2060 9,2066 b,206a 9,2070 4,2071 0,2074 4,",
   "207a 5,207c 8,207f 0,2080 4,208a 5,208c 8,208f 0,20a0 7,20d0 a,20f1 0,2100 8,2102 0,2103 8,",
   "2107 0,2108 8,210a 0,2114 8,2115 0,2116 8,2119 0,211e 8,2124 0,2125 8,2126 0,2127 8,2128 0,",
   "2129 8,212a 0,212e 7,212f 0,213a 8,213c 0,2140 8,2145 0,214a 8,214e 0,2150 8,2160 0,2189 8,",
   "218c 0,2190 8,2212 5,2213 7,2214 8,2336 0,237b 8,2395 0,2396 8,2427 0,2440 8,244b 0,2460 8,",
   "2488 4,249c 0,24ea 8,26ac 0,26ad 8,2800 0,2900 8,2b74 0,2b76 8,2b96 0,2b97 8,2c00 0,2ce5 8,",
   "2ceb 0,2cef a,2cf2 0,2cf9 8,2d00 0,2d7f a,2d80 0,2de0 a,2e00 8,2e5e 0,2e80 8,2e9a 0,2e9b 8,",
   "2ef4 0,2f00 8,2fd6 0,2ff0 8,2ffc 0,3000 b,3001 8,3005 0,3008 8,3021 0,302a a,302e 0,3030 8,",
   "3031 0,3036 8,3038 0,303d 8,3040 0,3099 a,309b 8,309d 0,30a0 8,30a1 0,30fb 8,30fc 0,31c0 8,",
   "31e4 0,321d 8,321f 0,3250 8,3260 0,327c 8,327f 0,32b1 8,32c0 0,32cc 8,32d0 0,3377 8,337b 0,",
   "33de 8,33e0 0,33ff 8,3400 0,4dc0 8,4e00 0,a490 8,a4c7 0,a60d 8,a610 0,a66f a,a673 8,a674 a,",
   "a67e 8,a680 0,a69e a,a6a0 0,a6f0 a,a6f2 0,a700 8,a722 0,a788 8,a789 0,a802 a,a803 0,a806 a,",
   "a807 0,a80b a,a80c 0,a825 a,a827 0,a828 8,a82c a,a82d 0,a838 7,a83a 0,a874 8,a878 0,a8c4 a,",
   "a8c6 0,a8e0 a,a8f2 0,a8ff a,a900 0,a926 a,a92e 0,a947 a,a952 0,a980 a,a983 0,a9b3 a,a9b4 0,",
   "a9b6 a,a9ba 0,a9bc a,a9be 0,a9e5 a,a9e6 0,aa29 a,aa2f 0,aa31 a,aa33 0,aa35 a,aa37 0,aa43 a,",
   "aa44 0,aa4c a,aa4d 0,aa7c a,aa7d 0,aab0 a,aab1 0,aab2 a,aab5 0,aab7 a,aab9 0,aabe a,aac0 0,",
   "aac1 a,aac2 0,aaec a,aaee 0,aaf6 a,aaf7 0,ab6a 8,ab6c 0,abe5 a,abe6 0,abe8 a,abe9 0,abed a,",
   "abee 0,fb1d 1,fb1e a,fb1f 1,fb29 5,fb2a 1,fb50 2,fd3e 8,fd50 2,fdcf 8,fdd0 9,fdf0 2,fdfd 8,",
   "fe00 a,fe10 8,fe1a 0,fe20 a,fe30 8,fe50 6,fe51 8,fe52 6,fe53 0,fe54 8,fe55 6,fe56 8,fe5f 7,",
   "fe60 8,fe62 5,fe64 8,fe67 0,fe68 8,fe69 7,fe6b 8,fe6c 0,fe70 2,feff 9,ff00 0,ff01 8,ff03 7,",
   "ff06 8,ff0b 5,ff0c 6,ff0d 5,ff0e 6,ff10 4,ff1a 6,ff1b 8,ff21 0,ff3b 8,ff41 0,ff5b 8,ff66 0,",
   "ffe0 7,ffe2 8,ffe5 7,ffe7 0,ffe8 8,ffef 0,fff0 9,fff9 8,fffe 9,10000 0,10101 8,10102 0,",
   "10140 8,1018d 0,10190 8,1019d 0,101a0 8,101a1 0,101fd a,101fe 0,102e0 a,102e1 4,102fc 0,",
   "10376 a,1037b 0,10800 1,1091f 8,10920 1,10a01 a,10a04 1,10a05 a,10a07 1,10a0c a,10a10 1,",
   "10a38 a,10a3b 1,10a3f a,10a40 1,10ae5 a,10ae7 1,10b39 8,10b40 1,10d00 2,10d24 a,10d28 2,",
   "10d30 3,10d3a 2,10d40 1,10e60 3,10e7f 1,10eab a,10ead 1,10ec0 2,10efd a,10f00 1,10f30 2,",
   "10f46 a,10f51 2,10f70 1,10f82 a,10f86 1,11000 0,11001 a,11002 0,11038 a,11047 0,11052 8,",
   "11066 0,11070 a,11071 0,11073 a,11075 0,1107f a,11082 0,110b3 a,110b7 0,110b9 a,110bb 0,",
   "110c2 a,110c3 0,11100 a,11103 0,11127 a,1112c 0,1112d a,11135 0,11173 a,11174 0,11180 a,",
   "11182 0,111b6 a,111bf 0,111c9 a,111cd 0,111cf a,111d0 0,1122f a,11232 0,11234 a,11235 0,",
   "11236 a,11238 0,1123e a,1123f 0,11241 a,11242 0,112df a,112e0 0,112e3 a,112eb 0,11300 a,",
   "11302 0,1133b a,1133d 0,11340 a,11341 0,11366 a,1136d 0,11370 a,11375 0,11438 a,11440 0,",
   "11442 a,11445 0,11446 a,11447 0,1145e a,1145f 0,114b3 a,114b9 0,114ba a,114bb 0,114bf a,",
   "114c1 0,114c2 a,114c4 0,115b2 a,115b6 0,115bc a,115be 0,115bf a,115c1 0,115dc a,115de 0,",
   "11633 a,1163b 0,1163d a,1163e 0,1163f a,11641 0,11660 8,1166d 0,116ab a,116ac 0,116ad a,",
   "116ae 0,116b0 a,116b6 0,116b7 a,116b8 0,1171d a,11720 0,11722 a,11726 0,11727 a,1172c 0,",
   "1182f a,11838 0,11839 a,1183b 0,1193b a,1193d 0,1193e a,1193f 0,11943 a,11944 0,119d4 a,",
   "119d8 0,119da a,119dc 0,119e0 a,119e1 0,11a01 a,11a07 0,11a09 a,11a0b 0,11a33 a,11a39 0,",
   "11a3b a,11a3f 0,11a47 a,11a48 0,11a51 a,11a57 0,11a59 a,11a5c 0,11a8a a,11a97 0,11a98 a,",
   "11a9a 0,11c30 a,11c37 0,11c38 a,11c3e 0,11c92 a,11ca8 0,11caa a,11cb1 0,11cb2 a,11cb4 0,",
   "11cb5 a,11cb7 0,11d31 a,11d37 0,11d3a a,11d3b 0,11d3c a,11d3e 0,11d3f a,11d46 0,11d47 a,",
   "11d48 0,11d90 a,11d92 0,11d95 a,11d96 0,11d97 a,11d98 0,11ef3 a,11ef5 0,11f00 a,11f02 0,",
   "11f36 a,11f3b 0,11f40 a,11f41 0,11f42 a,11f43 0,11fd5 8,11fdd 7,11fe1 8,11ff2 0,13440 a,",
   "13441 0,13447 a,13456 0,16af0 a,16af5 0,16b30 a,16b37 0,16f4f a,16f50 0,16f8f a,16f93 0,",
   "16fe2 8,16fe3 0,16fe4 a,16fe5 0,1bc9d a,1bc9f 0,1bca0 9,1bca4 0,1cf00 a,1cf2e 0,1cf30 a,",
   "1cf47 0,1d167 a,1d16a 0,1d173 9,1d17b a,1d183 0,1d185 a,1d18c 0,1d1aa a,1d1ae 0,1d1e9 8,",
   "1d1eb 0,1d200 8,1d242 a,1d245 8,1d246 0,1d300 8,1d357 0,1d6db 8,1d6dc 0,1d715 8,1d716 0,",
   "1d74f 8,1d750 0,1d789 8,1d78a 0,1d7c3 8,1d7c4 0,1d7ce 4,1d800 0,1da00 a,1da37 0,1da3b a,",
   "1da6d 0,1da75 a,1da76 0,1da84 a,1da85 0,1da9b a,1daa0 0,1daa1 a,1dab0 0,1e000 a,1e007 0,",
   "1e008 a,1e019 0,1e01b a,1e022 0,1e023 a,1e025 0,1e026 a,1e02b 0,1e08f a,1e090 0,1e130 a,",
   "1e137 0,1e2ae a,1e2af 0,1e2ec a,1e2f0 0,1e2ff 7,1e300 0,1e4ec a,1e4f0 0,1e800 1,1e8d0 a,",
   "1e8d7 1,1e944 a,1e94b 1,1ec70 2,1ecc0 1,1ed00 2,1ed50 1,1ee00 2,1eef0 8,1eef2 2,1ef00 1,",
   "1f000 8,1f02c 0,1f030 8,1f094 0,1f0a0 8,1f0af 0,1f0b1 8,1f0c0 0,1f0c1 8,1f0d0 0,1f0d1 8,",
   "1f0f6 0,1f100 4,1f10b 8,1f110 0,1f12f 8,1f130 0,1f16a 8,1f170 0,1f1ad 8,1f1ae 0,1f260 8,",
   "1f266 0,1f300 8,1f6d8 0,1f6dc 8,1f6ed 0,1f6f0 8,1f6fd 0,1f700 8,1f777 0,1f77b 8,1f7da 0,",
   "1f7e0 8,1f7ec 0,1f7f0 8,1f7f1 0,1f800 8,1f80c 0,1f810 8,1f848 0,1f850 8,1f85a 0,1f860 8,",
   "1f888 0,1f890 8,1f8ae 0,1f8b0 8,1f8b2 0,1f900 8,1fa54 0,1fa60 8,1fa6e 0,1fa70 8,1fa7d 0,",
   "1fa80 8,1fa89 0,1fa90 8,1fabe 0,1fabf 8,1fac6 0,1face 8,1fadc 0,1fae0 8,1fae9 0,1faf0 8,",
   "1faf9 0,1fb00 8,1fb93 0,1fb94 8,1fbcb 0,1fbf0 4,1fbfa 0,1fffe 9,20000 0,2fffe 9,30000 0,",
   "3fffe 9,40000 0,4fffe 9,50000 0,5fffe 9,60000 0,6fffe 9,70000 0,7fffe 9,80000 0,8fffe 9,",
   "90000 0,9fffe 9,a0000 0,afffe 9,b0000 0,bfffe 9,c0000 0,cfffe 9,d0000 0,dfffe 9,e0100 a,",
   "e01f0 9,e1000 0,efffe 9,f0000 0,ffffe 9,100000 0,10fffe 9,110000 0,"]

/-- The class of a character. -/
def kind (c : Char) : Nat := kinds.classOf c.toNat

/-- Whether a label holds a letter that is written from right to left, or an Arabic number. -/
def isRightToLeft (label : List Char) : Bool :=
  label.any fun c => kind c == 1 || kind c == 2 || kind c == 3

/-- The class of the last character of a label that is no nonspacing mark. -/
def lastKind (label : List Char) : Option Nat :=
  (((label.map kind).reverse.dropWhile (· == 10))).head?

/-- Whether a label may stand in a domain name that is written from right to left in part. -/
def permitted (label : List Char) : Bool :=
  let ks := label.map kind
  match ks with
  | [] => true
  | first :: _ =>
    if first == 1 || first == 2 then
      ks.all (fun k => k != 0 && k != 11) &&
        (match lastKind label with
          | some k => k == 1 || k == 2 || k == 3 || k == 4
          | none => false) &&
        !(ks.contains 3 && ks.contains 4)
    else if first == 0 then
      ks.all (fun k => k != 1 && k != 2 && k != 3 && k != 11) &&
        (match lastKind label with
          | some k => k == 0 || k == 4
          | none => false)
    else false

end Bidi

end Text

end Carrier

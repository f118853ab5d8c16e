import Multimatch.Unicode.Table

/-!
The general category of each scalar value (Unicode 16), with the names the categories go by.
-/

namespace Multimatch.Unicode

/-- The categories in code order, by their two-letter codes; surrogates have no row. -/
def generalCategoryRows : List Row := Row.read "
0-1f=cc 20=zs 21-23=po 24=sc 25-27=po 28=ps 29=pe 2a=po 2b=sm 2c=po 2d=pd 2e-2f=po 30-39=nd 3a-3b=po
3c-3e=sm 3f-40=po 41-5a=lu 5b=ps 5c=po 5d=pe 5e=sk 5f=pc 60=sk 61-7a=ll 7b=ps 7c=sm 7d=pe 7e=sm
7f-9f=cc a0=zs a1=po a2-a5=sc a6=so a7=po a8=sk a9=so aa=lo ab=pi ac=sm ad=cf ae=so af=sk b0=so
b1=sm b2-b3=no b4=sk b5=ll b6-b7=po b8=sk b9=no ba=lo bb=pf bc-be=no bf=po c0-d6=lu d7=sm d8-de=lu
df-f6=ll f7=sm f8-ff=ll 100=lu 101=ll 102=lu 103=ll 104=lu 105=ll 106=lu 107=ll 108=lu 109=ll 10a=lu
10b=ll 10c=lu 10d=ll 10e=lu 10f=ll 110=lu 111=ll 112=lu 113=ll 114=lu 115=ll 116=lu 117=ll 118=lu
119=ll 11a=lu 11b=ll 11c=lu 11d=ll 11e=lu 11f=ll 120=lu 121=ll 122=lu 123=ll 124=lu 125=ll 126=lu
127=ll 128=lu 129=ll 12a=lu 12b=ll 12c=lu 12d=ll 12e=lu 12f=ll 130=lu 131=ll 132=lu 133=ll 134=lu
135=ll 136=lu 137-138=ll 139=lu 13a=ll 13b=lu 13c=ll 13d=lu 13e=ll 13f=lu 140=ll 141=lu 142=ll
143=lu 144=ll 145=lu 146=ll 147=lu 148-149=ll 14a=lu 14b=ll 14c=lu 14d=ll 14e=lu 14f=ll 150=lu
151=ll 152=lu 153=ll 154=lu 155=ll 156=lu 157=ll 158=lu 159=ll 15a=lu 15b=ll 15c=lu 15d=ll 15e=lu
15f=ll 160=lu 161=ll 162=lu 163=ll 164=lu 165=ll 166=lu 167=ll 168=lu 169=ll 16a=lu 16b=ll 16c=lu
16d=ll 16e=lu 16f=ll 170=lu 171=ll 172=lu 173=ll 174=lu 175=ll 176=lu 177=ll 178-179=lu 17a=ll
17b=lu 17c=ll 17d=lu 17e-180=ll 181-182=lu 183=ll 184=lu 185=ll 186-187=lu 188=ll 189-18b=lu
18c-18d=ll 18e-191=lu 192=ll 193-194=lu 195=ll 196-198=lu 199-19b=ll 19c-19d=lu 19e=ll 19f-1a0=lu
1a1=ll 1a2=lu 1a3=ll 1a4=lu 1a5=ll 1a6-1a7=lu 1a8=ll 1a9=lu 1aa-1ab=ll 1ac=lu 1ad=ll 1ae-1af=lu
1b0=ll 1b1-1b3=lu 1b4=ll 1b5=lu 1b6=ll 1b7-1b8=lu 1b9-1ba=ll 1bb=lo 1bc=lu 1bd-1bf=ll 1c0-1c3=lo
1c4=lu 1c5=lt 1c6=ll 1c7=lu 1c8=lt 1c9=ll 1ca=lu 1cb=lt 1cc=ll 1cd=lu 1ce=ll 1cf=lu 1d0=ll 1d1=lu
1d2=ll 1d3=lu 1d4=ll 1d5=lu 1d6=ll 1d7=lu 1d8=ll 1d9=lu 1da=ll 1db=lu 1dc-1dd=ll 1de=lu 1df=ll
1e0=lu 1e1=ll 1e2=lu 1e3=ll 1e4=lu 1e5=ll 1e6=lu 1e7=ll 1e8=lu 1e9=ll 1ea=lu 1eb=ll 1ec=lu 1ed=ll
1ee=lu 1ef-1f0=ll 1f1=lu 1f2=lt 1f3=ll 1f4=lu 1f5=ll 1f6-1f8=lu 1f9=ll 1fa=lu 1fb=ll 1fc=lu 1fd=ll
1fe=lu 1ff=ll 200=lu 201=ll 202=lu 203=ll 204=lu 205=ll 206=lu 207=ll 208=lu 209=ll 20a=lu 20b=ll
20c=lu 20d=ll 20e=lu 20f=ll 210=lu 211=ll 212=lu 213=ll 214=lu 215=ll 216=lu 217=ll 218=lu 219=ll
21a=lu 21b=ll 21c=lu 21d=ll 21e=lu 21f=ll 220=lu 221=ll 222=lu 223=ll 224=lu 225=ll 226=lu 227=ll
228=lu 229=ll 22a=lu 22b=ll 22c=lu 22d=ll 22e=lu 22f=ll 230=lu 231=ll 232=lu 233-239=ll 23a-23b=lu
23c=ll 23d-23e=lu 23f-240=ll 241=lu 242=ll 243-246=lu 247=ll 248=lu 249=ll 24a=lu 24b=ll 24c=lu
24d=ll 24e=lu 24f-293=ll 294=lo 295-2af=ll 2b0-2c1=lm 2c2-2c5=sk 2c6-2d1=lm 2d2-2df=sk 2e0-2e4=lm
2e5-2eb=sk 2ec=lm 2ed=sk 2ee=lm 2ef-2ff=sk 300-36f=mn 370=lu 371=ll 372=lu 373=ll 374=lm 375=sk
376=lu 377=ll 378-379=cn 37a=lm 37b-37d=ll 37e=po 37f=lu 380-383=cn 384-385=sk 386=lu 387=po
388-38a=lu 38b=cn 38c=lu 38d=cn 38e-38f=lu 390=ll 391-3a1=lu 3a2=cn 3a3-3ab=lu 3ac-3ce=ll 3cf=lu
3d0-3d1=ll 3d2-3d4=lu 3d5-3d7=ll 3d8=lu 3d9=ll 3da=lu 3db=ll 3dc=lu 3dd=ll 3de=lu 3df=ll 3e0=lu
3e1=ll 3e2=lu 3e3=ll 3e4=lu 3e5=ll 3e6=lu 3e7=ll 3e8=lu 3e9=ll 3ea=lu 3eb=ll 3ec=lu 3ed=ll 3ee=lu
3ef-3f3=ll 3f4=lu 3f5=ll 3f6=sm 3f7=lu 3f8=ll 3f9-3fa=lu 3fb-3fc=ll 3fd-42f=lu 430-45f=ll 460=lu
461=ll 462=lu 463=ll 464=lu 465=ll 466=lu 467=ll 468=lu 469=ll 46a=lu 46b=ll 46c=lu 46d=ll 46e=lu
46f=ll 470=lu 471=ll 472=lu 473=ll 474=lu 475=ll 476=lu 477=ll 478=lu 479=ll 47a=lu 47b=ll 47c=lu
47d=ll 47e=lu 47f=ll 480=lu 481=ll 482=so 483-487=mn 488-489=me 48a=lu 48b=ll 48c=lu 48d=ll 48e=lu
48f=ll 490=lu 491=ll 492=lu 493=ll 494=lu 495=ll 496=lu 497=ll 498=lu 499=ll 49a=lu 49b=ll 49c=lu
49d=ll 49e=lu 49f=ll 4a0=lu 4a1=ll 4a2=lu 4a3=ll 4a4=lu 4a5=ll 4a6=lu 4a7=ll 4a8=lu 4a9=ll 4aa=lu
4ab=ll 4ac=lu 4ad=ll 4ae=lu 4af=ll 4b0=lu 4b1=ll 4b2=lu 4b3=ll 4b4=lu 4b5=ll 4b6=lu 4b7=ll 4b8=lu
4b9=ll 4ba=lu 4bb=ll 4bc=lu 4bd=ll 4be=lu 4bf=ll 4c0-4c1=lu 4c2=ll 4c3=lu 4c4=ll 4c5=lu 4c6=ll
4c7=lu 4c8=ll 4c9=lu 4ca=ll 4cb=lu 4cc=ll 4cd=lu 4ce-4cf=ll 4d0=lu 4d1=ll 4d2=lu 4d3=ll 4d4=lu
4d5=ll 4d6=lu 4d7=ll 4d8=lu 4d9=ll 4da=lu 4db=ll 4dc=lu 4dd=ll 4de=lu 4df=ll 4e0=lu 4e1=ll 4e2=lu
4e3=ll 4e4=lu 4e5=ll 4e6=lu 4e7=ll 4e8=lu 4e9=ll 4ea=lu 4eb=ll 4ec=lu 4ed=ll 4ee=lu 4ef=ll 4f0=lu
4f1=ll 4f2=lu 4f3=ll 4f4=lu 4f5=ll 4f6=lu 4f7=ll 4f8=lu 4f9=ll 4fa=lu 4fb=ll 4fc=lu 4fd=ll 4fe=lu
4ff=ll 500=lu 501=ll 502=lu 503=ll 504=lu 505=ll 506=lu 507=ll 508=lu 509=ll 50a=lu 50b=ll 50c=lu
50d=ll 50e=lu 50f=ll 510=lu 511=ll 512=lu 513=ll 514=lu 515=ll 516=lu 517=ll 518=lu 519=ll 51a=lu
51b=ll 51c=lu 51d=ll 51e=lu 51f=ll 520=lu 521=ll 522=lu 523=ll 524=lu 525=ll 526=lu 527=ll 528=lu
529=ll 52a=lu 52b=ll 52c=lu 52d=ll 52e=lu 52f=ll 530=cn 531-556=lu 557-558=cn 559=lm 55a-55f=po
560-588=ll 589=po 58a=pd 58b-58c=cn 58d-58e=so 58f=sc 590=cn 591-5bd=mn 5be=pd 5bf=mn 5c0=po
5c1-5c2=mn 5c3=po 5c4-5c5=mn 5c6=po 5c7=mn 5c8-5cf=cn 5d0-5ea=lo 5eb-5ee=cn 5ef-5f2=lo 5f3-5f4=po
5f5-5ff=cn 600-605=cf 606-608=sm 609-60a=po 60b=sc 60c-60d=po 60e-60f=so 610-61a=mn 61b=po 61c=cf
61d-61f=po 620-63f=lo 640=lm 641-64a=lo 64b-65f=mn 660-669=nd 66a-66d=po 66e-66f=lo 670=mn
671-6d3=lo 6d4=po 6d5=lo 6d6-6dc=mn 6dd=cf 6de=so 6df-6e4=mn 6e5-6e6=lm 6e7-6e8=mn 6e9=so 6ea-6ed=mn
6ee-6ef=lo 6f0-6f9=nd 6fa-6fc=lo 6fd-6fe=so 6ff=lo 700-70d=po 70e=cn 70f=cf 710=lo 711=mn 712-72f=lo
730-74a=mn 74b-74c=cn 74d-7a5=lo 7a6-7b0=mn 7b1=lo 7b2-7bf=cn 7c0-7c9=nd 7ca-7ea=lo 7eb-7f3=mn
7f4-7f5=lm 7f6=so 7f7-7f9=po 7fa=lm 7fb-7fc=cn 7fd=mn 7fe-7ff=sc 800-815=lo 816-819=mn 81a=lm
81b-823=mn 824=lm 825-827=mn 828=lm 829-82d=mn 82e-82f=cn 830-83e=po 83f=cn 840-858=lo 859-85b=mn
85c-85d=cn 85e=po 85f=cn 860-86a=lo 86b-86f=cn 870-887=lo 888=sk 889-88e=lo 88f=cn 890-891=cf
892-896=cn 897-89f=mn 8a0-8c8=lo 8c9=lm 8ca-8e1=mn 8e2=cf 8e3-902=mn 903=mc 904-939=lo 93a=mn 93b=mc
93c=mn 93d=lo 93e-940=mc 941-948=mn 949-94c=mc 94d=mn 94e-94f=mc 950=lo 951-957=mn 958-961=lo
962-963=mn 964-965=po 966-96f=nd 970=po 971=lm 972-980=lo 981=mn 982-983=mc 984=cn 985-98c=lo
98d-98e=cn 98f-990=lo 991-992=cn 993-9a8=lo 9a9=cn 9aa-9b0=lo 9b1=cn 9b2=lo 9b3-9b5=cn 9b6-9b9=lo
9ba-9bb=cn 9bc=mn 9bd=lo 9be-9c0=mc 9c1-9c4=mn 9c5-9c6=cn 9c7-9c8=mc 9c9-9ca=cn 9cb-9cc=mc 9cd=mn
9ce=lo 9cf-9d6=cn 9d7=mc 9d8-9db=cn 9dc-9dd=lo 9de=cn 9df-9e1=lo 9e2-9e3=mn 9e4-9e5=cn 9e6-9ef=nd
9f0-9f1=lo 9f2-9f3=sc 9f4-9f9=no 9fa=so 9fb=sc 9fc=lo 9fd=po 9fe=mn 9ff-a00=cn a01-a02=mn a03=mc
a04=cn a05-a0a=lo a0b-a0e=cn a0f-a10=lo a11-a12=cn a13-a28=lo a29=cn a2a-a30=lo a31=cn a32-a33=lo
a34=cn a35-a36=lo a37=cn a38-a39=lo a3a-a3b=cn a3c=mn a3d=cn a3e-a40=mc a41-a42=mn a43-a46=cn
a47-a48=mn a49-a4a=cn a4b-a4d=mn a4e-a50=cn a51=mn a52-a58=cn a59-a5c=lo a5d=cn a5e=lo a5f-a65=cn
a66-a6f=nd a70-a71=mn a72-a74=lo a75=mn a76=po a77-a80=cn a81-a82=mn a83=mc a84=cn a85-a8d=lo a8e=cn
a8f-a91=lo a92=cn a93-aa8=lo aa9=cn aaa-ab0=lo ab1=cn ab2-ab3=lo ab4=cn ab5-ab9=lo aba-abb=cn abc=mn
abd=lo abe-ac0=mc ac1-ac5=mn ac6=cn ac7-ac8=mn ac9=mc aca=cn acb-acc=mc acd=mn ace-acf=cn ad0=lo
ad1-adf=cn ae0-ae1=lo ae2-ae3=mn ae4-ae5=cn ae6-aef=nd af0=po af1=sc af2-af8=cn af9=lo afa-aff=mn
b00=cn b01=mn b02-b03=mc b04=cn b05-b0c=lo b0d-b0e=cn b0f-b10=lo b11-b12=cn b13-b28=lo b29=cn
b2a-b30=lo b31=cn b32-b33=lo b34=cn b35-b39=lo b3a-b3b=cn b3c=mn b3d=lo b3e=mc b3f=mn b40=mc
b41-b44=mn b45-b46=cn b47-b48=mc b49-b4a=cn b4b-b4c=mc b4d=mn b4e-b54=cn b55-b56=mn b57=mc
b58-b5b=cn b5c-b5d=lo b5e=cn b5f-b61=lo b62-b63=mn b64-b65=cn b66-b6f=nd b70=so b71=lo b72-b77=no
b78-b81=cn b82=mn b83=lo b84=cn b85-b8a=lo b8b-b8d=cn b8e-b90=lo b91=cn b92-b95=lo b96-b98=cn
b99-b9a=lo b9b=cn b9c=lo b9d=cn b9e-b9f=lo ba0-ba2=cn ba3-ba4=lo ba5-ba7=cn ba8-baa=lo bab-bad=cn
bae-bb9=lo bba-bbd=cn bbe-bbf=mc bc0=mn bc1-bc2=mc bc3-bc5=cn bc6-bc8=mc bc9=cn bca-bcc=mc bcd=mn
bce-bcf=cn bd0=lo bd1-bd6=cn bd7=mc bd8-be5=cn be6-bef=nd bf0-bf2=no bf3-bf8=so bf9=sc bfa=so
bfb-bff=cn c00=mn c01-c03=mc c04=mn c05-c0c=lo c0d=cn c0e-c10=lo c11=cn c12-c28=lo c29=cn c2a-c39=lo
c3a-c3b=cn c3c=mn c3d=lo c3e-c40=mn c41-c44=mc c45=cn c46-c48=mn c49=cn c4a-c4d=mn c4e-c54=cn
c55-c56=mn c57=cn c58-c5a=lo c5b-c5c=cn c5d=lo c5e-c5f=cn c60-c61=lo c62-c63=mn c64-c65=cn
c66-c6f=nd c70-c76=cn c77=po c78-c7e=no c7f=so c80=lo c81=mn c82-c83=mc c84=po c85-c8c=lo c8d=cn
c8e-c90=lo c91=cn c92-ca8=lo ca9=cn caa-cb3=lo cb4=cn cb5-cb9=lo cba-cbb=cn cbc=mn cbd=lo cbe=mc
cbf=mn cc0-cc4=mc cc5=cn cc6=mn cc7-cc8=mc cc9=cn cca-ccb=mc ccc-ccd=mn cce-cd4=cn cd5-cd6=mc
cd7-cdc=cn cdd-cde=lo cdf=cn ce0-ce1=lo ce2-ce3=mn ce4-ce5=cn ce6-cef=nd cf0=cn cf1-cf2=lo cf3=mc
cf4-cff=cn d00-d01=mn d02-d03=mc d04-d0c=lo d0d=cn d0e-d10=lo d11=cn d12-d3a=lo d3b-d3c=mn d3d=lo
d3e-d40=mc d41-d44=mn d45=cn d46-d48=mc d49=cn d4a-d4c=mc d4d=mn d4e=lo d4f=so d50-d53=cn d54-d56=lo
d57=mc d58-d5e=no d5f-d61=lo d62-d63=mn d64-d65=cn d66-d6f=nd d70-d78=no d79=so d7a-d7f=lo d80=cn
d81=mn d82-d83=mc d84=cn d85-d96=lo d97-d99=cn d9a-db1=lo db2=cn db3-dbb=lo dbc=cn dbd=lo dbe-dbf=cn
dc0-dc6=lo dc7-dc9=cn dca=mn dcb-dce=cn dcf-dd1=mc dd2-dd4=mn dd5=cn dd6=mn dd7=cn dd8-ddf=mc
de0-de5=cn de6-def=nd df0-df1=cn df2-df3=mc df4=po df5-e00=cn e01-e30=lo e31=mn e32-e33=lo
e34-e3a=mn e3b-e3e=cn e3f=sc e40-e45=lo e46=lm e47-e4e=mn e4f=po e50-e59=nd e5a-e5b=po e5c-e80=cn
e81-e82=lo e83=cn e84=lo e85=cn e86-e8a=lo e8b=cn e8c-ea3=lo ea4=cn ea5=lo ea6=cn ea7-eb0=lo eb1=mn
eb2-eb3=lo eb4-ebc=mn ebd=lo ebe-ebf=cn ec0-ec4=lo ec5=cn ec6=lm ec7=cn ec8-ece=mn ecf=cn ed0-ed9=nd
eda-edb=cn edc-edf=lo ee0-eff=cn f00=lo f01-f03=so f04-f12=po f13=so f14=po f15-f17=so f18-f19=mn
f1a-f1f=so f20-f29=nd f2a-f33=no f34=so f35=mn f36=so f37=mn f38=so f39=mn f3a=ps f3b=pe f3c=ps
f3d=pe f3e-f3f=mc f40-f47=lo f48=cn f49-f6c=lo f6d-f70=cn f71-f7e=mn f7f=mc f80-f84=mn f85=po
f86-f87=mn f88-f8c=lo f8d-f97=mn f98=cn f99-fbc=mn fbd=cn fbe-fc5=so fc6=mn fc7-fcc=so fcd=cn
fce-fcf=so fd0-fd4=po fd5-fd8=so fd9-fda=po fdb-fff=cn 1000-102a=lo 102b-102c=mc 102d-1030=mn
1031=mc 1032-1037=mn 1038=mc 1039-103a=mn 103b-103c=mc 103d-103e=mn 103f=lo 1040-1049=nd
104a-104f=po 1050-1055=lo 1056-1057=mc 1058-1059=mn 105a-105d=lo 105e-1060=mn 1061=lo 1062-1064=mc
1065-1066=lo 1067-106d=mc 106e-1070=lo 1071-1074=mn 1075-1081=lo 1082=mn 1083-1084=mc 1085-1086=mn
1087-108c=mc 108d=mn 108e=lo 108f=mc 1090-1099=nd 109a-109c=mc 109d=mn 109e-109f=so 10a0-10c5=lu
10c6=cn 10c7=lu 10c8-10cc=cn 10cd=lu 10ce-10cf=cn 10d0-10fa=ll 10fb=po 10fc=lm 10fd-10ff=ll
1100-1248=lo 1249=cn 124a-124d=lo 124e-124f=cn 1250-1256=lo 1257=cn 1258=lo 1259=cn 125a-125d=lo
125e-125f=cn 1260-1288=lo 1289=cn 128a-128d=lo 128e-128f=cn 1290-12b0=lo 12b1=cn 12b2-12b5=lo
12b6-12b7=cn 12b8-12be=lo 12bf=cn 12c0=lo 12c1=cn 12c2-12c5=lo 12c6-12c7=cn 12c8-12d6=lo 12d7=cn
12d8-1310=lo 1311=cn 1312-1315=lo 1316-1317=cn 1318-135a=lo 135b-135c=cn 135d-135f=mn 1360-1368=po
1369-137c=no 137d-137f=cn 1380-138f=lo 1390-1399=so 139a-139f=cn 13a0-13f5=lu 13f6-13f7=cn
13f8-13fd=ll 13fe-13ff=cn 1400=pd 1401-166c=lo 166d=so 166e=po 166f-167f=lo 1680=zs 1681-169a=lo
169b=ps 169c=pe 169d-169f=cn 16a0-16ea=lo 16eb-16ed=po 16ee-16f0=nl 16f1-16f8=lo 16f9-16ff=cn
1700-1711=lo 1712-1714=mn 1715=mc 1716-171e=cn 171f-1731=lo 1732-1733=mn 1734=mc 1735-1736=po
1737-173f=cn 1740-1751=lo 1752-1753=mn 1754-175f=cn 1760-176c=lo 176d=cn 176e-1770=lo 1771=cn
1772-1773=mn 1774-177f=cn 1780-17b3=lo 17b4-17b5=mn 17b6=mc 17b7-17bd=mn 17be-17c5=mc 17c6=mn
17c7-17c8=mc 17c9-17d3=mn 17d4-17d6=po 17d7=lm 17d8-17da=po 17db=sc 17dc=lo 17dd=mn 17de-17df=cn
17e0-17e9=nd 17ea-17ef=cn 17f0-17f9=no 17fa-17ff=cn 1800-1805=po 1806=pd 1807-180a=po 180b-180d=mn
180e=cf 180f=mn 1810-1819=nd 181a-181f=cn 1820-1842=lo 1843=lm 1844-1878=lo 1879-187f=cn
1880-1884=lo 1885-1886=mn 1887-18a8=lo 18a9=mn 18aa=lo 18ab-18af=cn 18b0-18f5=lo 18f6-18ff=cn
1900-191e=lo 191f=cn 1920-1922=mn 1923-1926=mc 1927-1928=mn 1929-192b=mc 192c-192f=cn 1930-1931=mc
1932=mn 1933-1938=mc 1939-193b=mn 193c-193f=cn 1940=so 1941-1943=cn 1944-1945=po 1946-194f=nd
1950-196d=lo 196e-196f=cn 1970-1974=lo 1975-197f=cn 1980-19ab=lo 19ac-19af=cn 19b0-19c9=lo
19ca-19cf=cn 19d0-19d9=nd 19da=no 19db-19dd=cn 19de-19ff=so 1a00-1a16=lo 1a17-1a18=mn 1a19-1a1a=mc
1a1b=mn 1a1c-1a1d=cn 1a1e-1a1f=po 1a20-1a54=lo 1a55=mc 1a56=mn 1a57=mc 1a58-1a5e=mn 1a5f=cn 1a60=mn
1a61=mc 1a62=mn 1a63-1a64=mc 1a65-1a6c=mn 1a6d-1a72=mc 1a73-1a7c=mn 1a7d-1a7e=cn 1a7f=mn
1a80-1a89=nd 1a8a-1a8f=cn 1a90-1a99=nd 1a9a-1a9f=cn 1aa0-1aa6=po 1aa7=lm 1aa8-1aad=po 1aae-1aaf=cn
1ab0-1abd=mn 1abe=me 1abf-1ace=mn 1acf-1aff=cn 1b00-1b03=mn 1b04=mc 1b05-1b33=lo 1b34=mn 1b35=mc
1b36-1b3a=mn 1b3b=mc 1b3c=mn 1b3d-1b41=mc 1b42=mn 1b43-1b44=mc 1b45-1b4c=lo 1b4d=cn 1b4e-1b4f=po
1b50-1b59=nd 1b5a-1b60=po 1b61-1b6a=so 1b6b-1b73=mn 1b74-1b7c=so 1b7d-1b7f=po 1b80-1b81=mn 1b82=mc
1b83-1ba0=lo 1ba1=mc 1ba2-1ba5=mn 1ba6-1ba7=mc 1ba8-1ba9=mn 1baa=mc 1bab-1bad=mn 1bae-1baf=lo
1bb0-1bb9=nd 1bba-1be5=lo 1be6=mn 1be7=mc 1be8-1be9=mn 1bea-1bec=mc 1bed=mn 1bee=mc 1bef-1bf1=mn
1bf2-1bf3=mc 1bf4-1bfb=cn 1bfc-1bff=po 1c00-1c23=lo 1c24-1c2b=mc 1c2c-1c33=mn 1c34-1c35=mc
1c36-1c37=mn 1c38-1c3a=cn 1c3b-1c3f=po 1c40-1c49=nd 1c4a-1c4c=cn 1c4d-1c4f=lo 1c50-1c59=nd
1c5a-1c77=lo 1c78-1c7d=lm 1c7e-1c7f=po 1c80-1c88=ll 1c89=lu 1c8a=ll 1c8b-1c8f=cn 1c90-1cba=lu
1cbb-1cbc=cn 1cbd-1cbf=lu 1cc0-1cc7=po 1cc8-1ccf=cn 1cd0-1cd2=mn 1cd3=po 1cd4-1ce0=mn 1ce1=mc
1ce2-1ce8=mn 1ce9-1cec=lo 1ced=mn 1cee-1cf3=lo 1cf4=mn 1cf5-1cf6=lo 1cf7=mc 1cf8-1cf9=mn 1cfa=lo
1cfb-1cff=cn 1d00-1d2b=ll 1d2c-1d6a=lm 1d6b-1d77=ll 1d78=lm 1d79-1d9a=ll 1d9b-1dbf=lm 1dc0-1dff=mn
1e00=lu 1e01=ll 1e02=lu 1e03=ll 1e04=lu 1e05=ll 1e06=lu 1e07=ll 1e08=lu 1e09=ll 1e0a=lu 1e0b=ll
1e0c=lu 1e0d=ll 1e0e=lu 1e0f=ll 1e10=lu 1e11=ll 1e12=lu 1e13=ll 1e14=lu 1e15=ll 1e16=lu 1e17=ll
1e18=lu 1e19=ll 1e1a=lu 1e1b=ll 1e1c=lu 1e1d=ll 1e1e=lu 1e1f=ll 1e20=lu 1e21=ll 1e22=lu 1e23=ll
1e24=lu 1e25=ll 1e26=lu 1e27=ll 1e28=lu 1e29=ll 1e2a=lu 1e2b=ll 1e2c=lu 1e2d=ll 1e2e=lu 1e2f=ll
1e30=lu 1e31=ll 1e32=lu 1e33=ll 1e34=lu 1e35=ll 1e36=lu 1e37=ll 1e38=lu 1e39=ll 1e3a=lu 1e3b=ll
1e3c=lu 1e3d=ll 1e3e=lu 1e3f=ll 1e40=lu 1e41=ll 1e42=lu 1e43=ll 1e44=lu 1e45=ll 1e46=lu 1e47=ll
1e48=lu 1e49=ll 1e4a=lu 1e4b=ll 1e4c=lu 1e4d=ll 1e4e=lu 1e4f=ll 1e50=lu 1e51=ll 1e52=lu 1e53=ll
1e54=lu 1e55=ll 1e56=lu 1e57=ll 1e58=lu 1e59=ll 1e5a=lu 1e5b=ll 1e5c=lu 1e5d=ll 1e5e=lu 1e5f=ll
1e60=lu 1e61=ll 1e62=lu 1e63=ll 1e64=lu 1e65=ll 1e66=lu 1e67=ll 1e68=lu 1e69=ll 1e6a=lu 1e6b=ll
1e6c=lu 1e6d=ll 1e6e=lu 1e6f=ll 1e70=lu 1e71=ll 1e72=lu 1e73=ll 1e74=lu 1e75=ll 1e76=lu 1e77=ll
1e78=lu 1e79=ll 1e7a=lu 1e7b=ll 1e7c=lu 1e7d=ll 1e7e=lu 1e7f=ll 1e80=lu 1e81=ll 1e82=lu 1e83=ll
1e84=lu 1e85=ll 1e86=lu 1e87=ll 1e88=lu 1e89=ll 1e8a=lu 1e8b=ll 1e8c=lu 1e8d=ll 1e8e=lu 1e8f=ll
1e90=lu 1e91=ll 1e92=lu 1e93=ll 1e94=lu 1e95-1e9d=ll 1e9e=lu 1e9f=ll 1ea0=lu 1ea1=ll 1ea2=lu 1ea3=ll
1ea4=lu 1ea5=ll 1ea6=lu 1ea7=ll 1ea8=lu 1ea9=ll 1eaa=lu 1eab=ll 1eac=lu 1ead=ll 1eae=lu 1eaf=ll
1eb0=lu 1eb1=ll 1eb2=lu 1eb3=ll 1eb4=lu 1eb5=ll 1eb6=lu 1eb7=ll 1eb8=lu 1eb9=ll 1eba=lu 1ebb=ll
1ebc=lu 1ebd=ll 1ebe=lu 1ebf=ll 1ec0=lu 1ec1=ll 1ec2=lu 1ec3=ll 1ec4=lu 1ec5=ll 1ec6=lu 1ec7=ll
1ec8=lu 1ec9=ll 1eca=lu 1ecb=ll 1ecc=lu 1ecd=ll 1ece=lu 1ecf=ll 1ed0=lu 1ed1=ll 1ed2=lu 1ed3=ll
1ed4=lu 1ed5=ll 1ed6=lu 1ed7=ll 1ed8=lu 1ed9=ll 1eda=lu 1edb=ll 1edc=lu 1edd=ll 1ede=lu 1edf=ll
1ee0=lu 1ee1=ll 1ee2=lu 1ee3=ll 1ee4=lu 1ee5=ll 1ee6=lu 1ee7=ll 1ee8=lu 1ee9=ll 1eea=lu 1eeb=ll
1eec=lu 1eed=ll 1eee=lu 1eef=ll 1ef0=lu 1ef1=ll 1ef2=lu 1ef3=ll 1ef4=lu 1ef5=ll 1ef6=lu 1ef7=ll
1ef8=lu 1ef9=ll 1efa=lu 1efb=ll 1efc=lu 1efd=ll 1efe=lu 1eff-1f07=ll 1f08-1f0f=lu 1f10-1f15=ll
1f16-1f17=cn 1f18-1f1d=lu 1f1e-1f1f=cn 1f20-1f27=ll 1f28-1f2f=lu 1f30-1f37=ll 1f38-1f3f=lu
1f40-1f45=ll 1f46-1f47=cn 1f48-1f4d=lu 1f4e-1f4f=cn 1f50-1f57=ll 1f58=cn 1f59=lu 1f5a=cn 1f5b=lu
1f5c=cn 1f5d=lu 1f5e=cn 1f5f=lu 1f60-1f67=ll 1f68-1f6f=lu 1f70-1f7d=ll 1f7e-1f7f=cn 1f80-1f87=ll
1f88-1f8f=lt 1f90-1f97=ll 1f98-1f9f=lt 1fa0-1fa7=ll 1fa8-1faf=lt 1fb0-1fb4=ll 1fb5=cn 1fb6-1fb7=ll
1fb8-1fbb=lu 1fbc=lt 1fbd=sk 1fbe=ll 1fbf-1fc1=sk 1fc2-1fc4=ll 1fc5=cn 1fc6-1fc7=ll 1fc8-1fcb=lu
1fcc=lt 1fcd-1fcf=sk 1fd0-1fd3=ll 1fd4-1fd5=cn 1fd6-1fd7=ll 1fd8-1fdb=lu 1fdc=cn 1fdd-1fdf=sk
1fe0-1fe7=ll 1fe8-1fec=lu 1fed-1fef=sk 1ff0-1ff1=cn 1ff2-1ff4=ll 1ff5=cn 1ff6-1ff7=ll 1ff8-1ffb=lu
1ffc=lt 1ffd-1ffe=sk 1fff=cn 2000-200a=zs 200b-200f=cf 2010-2015=pd 2016-2017=po 2018=pi 2019=pf
201a=ps 201b-201c=pi 201d=pf 201e=ps 201f=pi 2020-2027=po 2028=zl 2029=zp 202a-202e=cf 202f=zs
2030-2038=po 2039=pi 203a=pf 203b-203e=po 203f-2040=pc 2041-2043=po 2044=sm 2045=ps 2046=pe
2047-2051=po 2052=sm 2053=po 2054=pc 2055-205e=po 205f=zs 2060-2064=cf 2065=cn 2066-206f=cf 2070=no
2071=lm 2072-2073=cn 2074-2079=no 207a-207c=sm 207d=ps 207e=pe 207f=lm 2080-2089=no 208a-208c=sm
208d=ps 208e=pe 208f=cn 2090-209c=lm 209d-209f=cn 20a0-20c0=sc 20c1-20cf=cn 20d0-20dc=mn
20dd-20e0=me 20e1=mn 20e2-20e4=me 20e5-20f0=mn 20f1-20ff=cn 2100-2101=so 2102=lu 2103-2106=so
2107=lu 2108-2109=so 210a=ll 210b-210d=lu 210e-210f=ll 2110-2112=lu 2113=ll 2114=so 2115=lu
2116-2117=so 2118=sm 2119-211d=lu 211e-2123=so 2124=lu 2125=so 2126=lu 2127=so 2128=lu 2129=so
212a-212d=lu 212e=so 212f=ll 2130-2133=lu 2134=ll 2135-2138=lo 2139=ll 213a-213b=so 213c-213d=ll
213e-213f=lu 2140-2144=sm 2145=lu 2146-2149=ll 214a=so 214b=sm 214c-214d=so 214e=ll 214f=so
2150-215f=no 2160-2182=nl 2183=lu 2184=ll 2185-2188=nl 2189=no 218a-218b=so 218c-218f=cn
2190-2194=sm 2195-2199=so 219a-219b=sm 219c-219f=so 21a0=sm 21a1-21a2=so 21a3=sm 21a4-21a5=so
21a6=sm 21a7-21ad=so 21ae=sm 21af-21cd=so 21ce-21cf=sm 21d0-21d1=so 21d2=sm 21d3=so 21d4=sm
21d5-21f3=so 21f4-22ff=sm 2300-2307=so 2308=ps 2309=pe 230a=ps 230b=pe 230c-231f=so 2320-2321=sm
2322-2328=so 2329=ps 232a=pe 232b-237b=so 237c=sm 237d-239a=so 239b-23b3=sm 23b4-23db=so
23dc-23e1=sm 23e2-2429=so 242a-243f=cn 2440-244a=so 244b-245f=cn 2460-249b=no 249c-24e9=so
24ea-24ff=no 2500-25b6=so 25b7=sm 25b8-25c0=so 25c1=sm 25c2-25f7=so 25f8-25ff=sm 2600-266e=so
266f=sm 2670-2767=so 2768=ps 2769=pe 276a=ps 276b=pe 276c=ps 276d=pe 276e=ps 276f=pe 2770=ps 2771=pe
2772=ps 2773=pe 2774=ps 2775=pe 2776-2793=no 2794-27bf=so 27c0-27c4=sm 27c5=ps 27c6=pe 27c7-27e5=sm
27e6=ps 27e7=pe 27e8=ps 27e9=pe 27ea=ps 27eb=pe 27ec=ps 27ed=pe 27ee=ps 27ef=pe 27f0-27ff=sm
2800-28ff=so 2900-2982=sm 2983=ps 2984=pe 2985=ps 2986=pe 2987=ps 2988=pe 2989=ps 298a=pe 298b=ps
298c=pe 298d=ps 298e=pe 298f=ps 2990=pe 2991=ps 2992=pe 2993=ps 2994=pe 2995=ps 2996=pe 2997=ps
2998=pe 2999-29d7=sm 29d8=ps 29d9=pe 29da=ps 29db=pe 29dc-29fb=sm 29fc=ps 29fd=pe 29fe-2aff=sm
2b00-2b2f=so 2b30-2b44=sm 2b45-2b46=so 2b47-2b4c=sm 2b4d-2b73=so 2b74-2b75=cn 2b76-2b95=so 2b96=cn
2b97-2bff=so 2c00-2c2f=lu 2c30-2c5f=ll 2c60=lu 2c61=ll 2c62-2c64=lu 2c65-2c66=ll 2c67=lu 2c68=ll
2c69=lu 2c6a=ll 2c6b=lu 2c6c=ll 2c6d-2c70=lu 2c71=ll 2c72=lu 2c73-2c74=ll 2c75=lu 2c76-2c7b=ll
2c7c-2c7d=lm 2c7e-2c80=lu 2c81=ll 2c82=lu 2c83=ll 2c84=lu 2c85=ll 2c86=lu 2c87=ll 2c88=lu 2c89=ll
2c8a=lu 2c8b=ll 2c8c=lu 2c8d=ll 2c8e=lu 2c8f=ll 2c90=lu 2c91=ll 2c92=lu 2c93=ll 2c94=lu 2c95=ll
2c96=lu 2c97=ll 2c98=lu 2c99=ll 2c9a=lu 2c9b=ll 2c9c=lu 2c9d=ll 2c9e=lu 2c9f=ll 2ca0=lu 2ca1=ll
2ca2=lu 2ca3=ll 2ca4=lu 2ca5=ll 2ca6=lu 2ca7=ll 2ca8=lu 2ca9=ll 2caa=lu 2cab=ll 2cac=lu 2cad=ll
2cae=lu 2caf=ll 2cb0=lu 2cb1=ll 2cb2=lu 2cb3=ll 2cb4=lu 2cb5=ll 2cb6=lu 2cb7=ll 2cb8=lu 2cb9=ll
2cba=lu 2cbb=ll 2cbc=lu 2cbd=ll 2cbe=lu 2cbf=ll 2cc0=lu 2cc1=ll 2cc2=lu 2cc3=ll 2cc4=lu 2cc5=ll
2cc6=lu 2cc7=ll 2cc8=lu 2cc9=ll 2cca=lu 2ccb=ll 2ccc=lu 2ccd=ll 2cce=lu 2ccf=ll 2cd0=lu 2cd1=ll
2cd2=lu 2cd3=ll 2cd4=lu 2cd5=ll 2cd6=lu 2cd7=ll 2cd8=lu 2cd9=ll 2cda=lu 2cdb=ll 2cdc=lu 2cdd=ll
2cde=lu 2cdf=ll 2ce0=lu 2ce1=ll 2ce2=lu 2ce3-2ce4=ll 2ce5-2cea=so 2ceb=lu 2cec=ll 2ced=lu 2cee=ll
2cef-2cf1=mn 2cf2=lu 2cf3=ll 2cf4-2cf8=cn 2cf9-2cfc=po 2cfd=no 2cfe-2cff=po 2d00-2d25=ll 2d26=cn
2d27=ll 2d28-2d2c=cn 2d2d=ll 2d2e-2d2f=cn 2d30-2d67=lo 2d68-2d6e=cn 2d6f=lm 2d70=po 2d71-2d7e=cn
2d7f=mn 2d80-2d96=lo 2d97-2d9f=cn 2da0-2da6=lo 2da7=cn 2da8-2dae=lo 2daf=cn 2db0-2db6=lo 2db7=cn
2db8-2dbe=lo 2dbf=cn 2dc0-2dc6=lo 2dc7=cn 2dc8-2dce=lo 2dcf=cn 2dd0-2dd6=lo 2dd7=cn 2dd8-2dde=lo
2ddf=cn 2de0-2dff=mn 2e00-2e01=po 2e02=pi 2e03=pf 2e04=pi 2e05=pf 2e06-2e08=po 2e09=pi 2e0a=pf
2e0b=po 2e0c=pi 2e0d=pf 2e0e-2e16=po 2e17=pd 2e18-2e19=po 2e1a=pd 2e1b=po 2e1c=pi 2e1d=pf
2e1e-2e1f=po 2e20=pi 2e21=pf 2e22=ps 2e23=pe 2e24=ps 2e25=pe 2e26=ps 2e27=pe 2e28=ps 2e29=pe
2e2a-2e2e=po 2e2f=lm 2e30-2e39=po 2e3a-2e3b=pd 2e3c-2e3f=po 2e40=pd 2e41=po 2e42=ps 2e43-2e4f=po
2e50-2e51=so 2e52-2e54=po 2e55=ps 2e56=pe 2e57=ps 2e58=pe 2e59=ps 2e5a=pe 2e5b=ps 2e5c=pe 2e5d=pd
2e5e-2e7f=cn 2e80-2e99=so 2e9a=cn 2e9b-2ef3=so 2ef4-2eff=cn 2f00-2fd5=so 2fd6-2fef=cn 2ff0-2fff=so
3000=zs 3001-3003=po 3004=so 3005=lm 3006=lo 3007=nl 3008=ps 3009=pe 300a=ps 300b=pe 300c=ps 300d=pe
300e=ps 300f=pe 3010=ps 3011=pe 3012-3013=so 3014=ps 3015=pe 3016=ps 3017=pe 3018=ps 3019=pe 301a=ps
301b=pe 301c=pd 301d=ps 301e-301f=pe 3020=so 3021-3029=nl 302a-302d=mn 302e-302f=mc 3030=pd
3031-3035=lm 3036-3037=so 3038-303a=nl 303b=lm 303c=lo 303d=po 303e-303f=so 3040=cn 3041-3096=lo
3097-3098=cn 3099-309a=mn 309b-309c=sk 309d-309e=lm 309f=lo 30a0=pd 30a1-30fa=lo 30fb=po
30fc-30fe=lm 30ff=lo 3100-3104=cn 3105-312f=lo 3130=cn 3131-318e=lo 318f=cn 3190-3191=so
3192-3195=no 3196-319f=so 31a0-31bf=lo 31c0-31e5=so 31e6-31ee=cn 31ef=so 31f0-31ff=lo 3200-321e=so
321f=cn 3220-3229=no 322a-3247=so 3248-324f=no 3250=so 3251-325f=no 3260-327f=so 3280-3289=no
328a-32b0=so 32b1-32bf=no 32c0-33ff=so 3400-4dbf=lo 4dc0-4dff=so 4e00-a014=lo a015=lm a016-a48c=lo
a48d-a48f=cn a490-a4c6=so a4c7-a4cf=cn a4d0-a4f7=lo a4f8-a4fd=lm a4fe-a4ff=po a500-a60b=lo a60c=lm
a60d-a60f=po a610-a61f=lo a620-a629=nd a62a-a62b=lo a62c-a63f=cn a640=lu a641=ll a642=lu a643=ll
a644=lu a645=ll a646=lu a647=ll a648=lu a649=ll a64a=lu a64b=ll a64c=lu a64d=ll a64e=lu a64f=ll
a650=lu a651=ll a652=lu a653=ll a654=lu a655=ll a656=lu a657=ll a658=lu a659=ll a65a=lu a65b=ll
a65c=lu a65d=ll a65e=lu a65f=ll a660=lu a661=ll a662=lu a663=ll a664=lu a665=ll a666=lu a667=ll
a668=lu a669=ll a66a=lu a66b=ll a66c=lu a66d=ll a66e=lo a66f=mn a670-a672=me a673=po a674-a67d=mn
a67e=po a67f=lm a680=lu a681=ll a682=lu a683=ll a684=lu a685=ll a686=lu a687=ll a688=lu a689=ll
a68a=lu a68b=ll a68c=lu a68d=ll a68e=lu a68f=ll a690=lu a691=ll a692=lu a693=ll a694=lu a695=ll
a696=lu a697=ll a698=lu a699=ll a69a=lu a69b=ll a69c-a69d=lm a69e-a69f=mn a6a0-a6e5=lo a6e6-a6ef=nl
a6f0-a6f1=mn a6f2-a6f7=po a6f8-a6ff=cn a700-a716=sk a717-a71f=lm a720-a721=sk a722=lu a723=ll
a724=lu a725=ll a726=lu a727=ll a728=lu a729=ll a72a=lu a72b=ll a72c=lu a72d=ll a72e=lu a72f-a731=ll
a732=lu a733=ll a734=lu a735=ll a736=lu a737=ll a738=lu a739=ll a73a=lu a73b=ll a73c=lu a73d=ll
a73e=lu a73f=ll a740=lu a741=ll a742=lu a743=ll a744=lu a745=ll a746=lu a747=ll a748=lu a749=ll
a74a=lu a74b=ll a74c=lu a74d=ll a74e=lu a74f=ll a750=lu a751=ll a752=lu a753=ll a754=lu a755=ll
a756=lu a757=ll a758=lu a759=ll a75a=lu a75b=ll a75c=lu a75d=ll a75e=lu a75f=ll a760=lu a761=ll
a762=lu a763=ll a764=lu a765=ll a766=lu a767=ll a768=lu a769=ll a76a=lu a76b=ll a76c=lu a76d=ll
a76e=lu a76f=ll a770=lm a771-a778=ll a779=lu a77a=ll a77b=lu a77c=ll a77d-a77e=lu a77f=ll a780=lu
a781=ll a782=lu a783=ll a784=lu a785=ll a786=lu a787=ll a788=lm a789-a78a=sk a78b=lu a78c=ll a78d=lu
a78e=ll a78f=lo a790=lu a791=ll a792=lu a793-a795=ll a796=lu a797=ll a798=lu a799=ll a79a=lu a79b=ll
a79c=lu a79d=ll a79e=lu a79f=ll a7a0=lu a7a1=ll a7a2=lu a7a3=ll a7a4=lu a7a5=ll a7a6=lu a7a7=ll
a7a8=lu a7a9=ll a7aa-a7ae=lu a7af=ll a7b0-a7b4=lu a7b5=ll a7b6=lu a7b7=ll a7b8=lu a7b9=ll a7ba=lu
a7bb=ll a7bc=lu a7bd=ll a7be=lu a7bf=ll a7c0=lu a7c1=ll a7c2=lu a7c3=ll a7c4-a7c7=lu a7c8=ll a7c9=lu
a7ca=ll a7cb-a7cc=lu a7cd=ll a7ce-a7cf=cn a7d0=lu a7d1=ll a7d2=cn a7d3=ll a7d4=cn a7d5=ll a7d6=lu
a7d7=ll a7d8=lu a7d9=ll a7da=lu a7db=ll a7dc=lu a7dd-a7f1=cn a7f2-a7f4=lm a7f5=lu a7f6=ll a7f7=lo
a7f8-a7f9=lm a7fa=ll a7fb-a801=lo a802=mn a803-a805=lo a806=mn a807-a80a=lo a80b=mn a80c-a822=lo
a823-a824=mc a825-a826=mn a827=mc a828-a82b=so a82c=mn a82d-a82f=cn a830-a835=no a836-a837=so
a838=sc a839=so a83a-a83f=cn a840-a873=lo a874-a877=po a878-a87f=cn a880-a881=mc a882-a8b3=lo
a8b4-a8c3=mc a8c4-a8c5=mn a8c6-a8cd=cn a8ce-a8cf=po a8d0-a8d9=nd a8da-a8df=cn a8e0-a8f1=mn
a8f2-a8f7=lo a8f8-a8fa=po a8fb=lo a8fc=po a8fd-a8fe=lo a8ff=mn a900-a909=nd a90a-a925=lo
a926-a92d=mn a92e-a92f=po a930-a946=lo a947-a951=mn a952-a953=mc a954-a95e=cn a95f=po a960-a97c=lo
a97d-a97f=cn a980-a982=mn a983=mc a984-a9b2=lo a9b3=mn a9b4-a9b5=mc a9b6-a9b9=mn a9ba-a9bb=mc
a9bc-a9bd=mn a9be-a9c0=mc a9c1-a9cd=po a9ce=cn a9cf=lm a9d0-a9d9=nd a9da-a9dd=cn a9de-a9df=po
a9e0-a9e4=lo a9e5=mn a9e6=lm a9e7-a9ef=lo a9f0-a9f9=nd a9fa-a9fe=lo a9ff=cn aa00-aa28=lo
aa29-aa2e=mn aa2f-aa30=mc aa31-aa32=mn aa33-aa34=mc aa35-aa36=mn aa37-aa3f=cn aa40-aa42=lo aa43=mn
aa44-aa4b=lo aa4c=mn aa4d=mc aa4e-aa4f=cn aa50-aa59=nd aa5a-aa5b=cn aa5c-aa5f=po aa60-aa6f=lo
aa70=lm aa71-aa76=lo aa77-aa79=so aa7a=lo aa7b=mc aa7c=mn aa7d=mc aa7e-aaaf=lo aab0=mn aab1=lo
aab2-aab4=mn aab5-aab6=lo aab7-aab8=mn aab9-aabd=lo aabe-aabf=mn aac0=lo aac1=mn aac2=lo
aac3-aada=cn aadb-aadc=lo aadd=lm aade-aadf=po aae0-aaea=lo aaeb=mc aaec-aaed=mn aaee-aaef=mc
aaf0-aaf1=po aaf2=lo aaf3-aaf4=lm aaf5=mc aaf6=mn aaf7-ab00=cn ab01-ab06=lo ab07-ab08=cn
ab09-ab0e=lo ab0f-ab10=cn ab11-ab16=lo ab17-ab1f=cn ab20-ab26=lo ab27=cn ab28-ab2e=lo ab2f=cn
ab30-ab5a=ll ab5b=sk ab5c-ab5f=lm ab60-ab68=ll ab69=lm ab6a-ab6b=sk ab6c-ab6f=cn ab70-abbf=ll
abc0-abe2=lo abe3-abe4=mc abe5=mn abe6-abe7=mc abe8=mn abe9-abea=mc abeb=po abec=mc abed=mn
abee-abef=cn abf0-abf9=nd abfa-abff=cn ac00-d7a3=lo d7a4-d7af=cn d7b0-d7c6=lo d7c7-d7ca=cn
d7cb-d7fb=lo d7fc-d7ff=cn e000-f8ff=co f900-fa6d=lo fa6e-fa6f=cn fa70-fad9=lo fada-faff=cn
fb00-fb06=ll fb07-fb12=cn fb13-fb17=ll fb18-fb1c=cn fb1d=lo fb1e=mn fb1f-fb28=lo fb29=sm
fb2a-fb36=lo fb37=cn fb38-fb3c=lo fb3d=cn fb3e=lo fb3f=cn fb40-fb41=lo fb42=cn fb43-fb44=lo fb45=cn
fb46-fbb1=lo fbb2-fbc2=sk fbc3-fbd2=cn fbd3-fd3d=lo fd3e=pe fd3f=ps fd40-fd4f=so fd50-fd8f=lo
fd90-fd91=cn fd92-fdc7=lo fdc8-fdce=cn fdcf=so fdd0-fdef=cn fdf0-fdfb=lo fdfc=sc fdfd-fdff=so
fe00-fe0f=mn fe10-fe16=po fe17=ps fe18=pe fe19=po fe1a-fe1f=cn fe20-fe2f=mn fe30=po fe31-fe32=pd
fe33-fe34=pc fe35=ps fe36=pe fe37=ps fe38=pe fe39=ps fe3a=pe fe3b=ps fe3c=pe fe3d=ps fe3e=pe fe3f=ps
fe40=pe fe41=ps fe42=pe fe43=ps fe44=pe fe45-fe46=po fe47=ps fe48=pe fe49-fe4c=po fe4d-fe4f=pc
fe50-fe52=po fe53=cn fe54-fe57=po fe58=pd fe59=ps fe5a=pe fe5b=ps fe5c=pe fe5d=ps fe5e=pe
fe5f-fe61=po fe62=sm fe63=pd fe64-fe66=sm fe67=cn fe68=po fe69=sc fe6a-fe6b=po fe6c-fe6f=cn
fe70-fe74=lo fe75=cn fe76-fefc=lo fefd-fefe=cn feff=cf ff00=cn ff01-ff03=po ff04=sc ff05-ff07=po
ff08=ps ff09=pe ff0a=po ff0b=sm ff0c=po ff0d=pd ff0e-ff0f=po ff10-ff19=nd ff1a-ff1b=po ff1c-ff1e=sm
ff1f-ff20=po ff21-ff3a=lu ff3b=ps ff3c=po ff3d=pe ff3e=sk ff3f=pc ff40=sk ff41-ff5a=ll ff5b=ps
ff5c=sm ff5d=pe ff5e=sm ff5f=ps ff60=pe ff61=po ff62=ps ff63=pe ff64-ff65=po ff66-ff6f=lo ff70=lm
ff71-ff9d=lo ff9e-ff9f=lm ffa0-ffbe=lo ffbf-ffc1=cn ffc2-ffc7=lo ffc8-ffc9=cn ffca-ffcf=lo
ffd0-ffd1=cn ffd2-ffd7=lo ffd8-ffd9=cn ffda-ffdc=lo ffdd-ffdf=cn ffe0-ffe1=sc ffe2=sm ffe3=sk
ffe4=so ffe5-ffe6=sc ffe7=cn ffe8=so ffe9-ffec=sm ffed-ffee=so ffef-fff8=cn fff9-fffb=cf
fffc-fffd=so fffe-ffff=cn 10000-1000b=lo 1000c=cn 1000d-10026=lo 10027=cn 10028-1003a=lo 1003b=cn
1003c-1003d=lo 1003e=cn 1003f-1004d=lo 1004e-1004f=cn 10050-1005d=lo 1005e-1007f=cn 10080-100fa=lo
100fb-100ff=cn 10100-10102=po 10103-10106=cn 10107-10133=no 10134-10136=cn 10137-1013f=so
10140-10174=nl 10175-10178=no 10179-10189=so 1018a-1018b=no 1018c-1018e=so 1018f=cn 10190-1019c=so
1019d-1019f=cn 101a0=so 101a1-101cf=cn 101d0-101fc=so 101fd=mn 101fe-1027f=cn 10280-1029c=lo
1029d-1029f=cn 102a0-102d0=lo 102d1-102df=cn 102e0=mn 102e1-102fb=no 102fc-102ff=cn 10300-1031f=lo
10320-10323=no 10324-1032c=cn 1032d-10340=lo 10341=nl 10342-10349=lo 1034a=nl 1034b-1034f=cn
10350-10375=lo 10376-1037a=mn 1037b-1037f=cn 10380-1039d=lo 1039e=cn 1039f=po 103a0-103c3=lo
103c4-103c7=cn 103c8-103cf=lo 103d0=po 103d1-103d5=nl 103d6-103ff=cn 10400-10427=lu 10428-1044f=ll
10450-1049d=lo 1049e-1049f=cn 104a0-104a9=nd 104aa-104af=cn 104b0-104d3=lu 104d4-104d7=cn
104d8-104fb=ll 104fc-104ff=cn 10500-10527=lo 10528-1052f=cn 10530-10563=lo 10564-1056e=cn 1056f=po
10570-1057a=lu 1057b=cn 1057c-1058a=lu 1058b=cn 1058c-10592=lu 10593=cn 10594-10595=lu 10596=cn
10597-105a1=ll 105a2=cn 105a3-105b1=ll 105b2=cn 105b3-105b9=ll 105ba=cn 105bb-105bc=ll
105bd-105bf=cn 105c0-105f3=lo 105f4-105ff=cn 10600-10736=lo 10737-1073f=cn 10740-10755=lo
10756-1075f=cn 10760-10767=lo 10768-1077f=cn 10780-10785=lm 10786=cn 10787-107b0=lm 107b1=cn
107b2-107ba=lm 107bb-107ff=cn 10800-10805=lo 10806-10807=cn 10808=lo 10809=cn 1080a-10835=lo
10836=cn 10837-10838=lo 10839-1083b=cn 1083c=lo 1083d-1083e=cn 1083f-10855=lo 10856=cn 10857=po
10858-1085f=no 10860-10876=lo 10877-10878=so 10879-1087f=no 10880-1089e=lo 1089f-108a6=cn
108a7-108af=no 108b0-108df=cn 108e0-108f2=lo 108f3=cn 108f4-108f5=lo 108f6-108fa=cn 108fb-108ff=no
10900-10915=lo 10916-1091b=no 1091c-1091e=cn 1091f=po 10920-10939=lo 1093a-1093e=cn 1093f=po
10940-1097f=cn 10980-109b7=lo 109b8-109bb=cn 109bc-109bd=no 109be-109bf=lo 109c0-109cf=no
109d0-109d1=cn 109d2-109ff=no 10a00=lo 10a01-10a03=mn 10a04=cn 10a05-10a06=mn 10a07-10a0b=cn
10a0c-10a0f=mn 10a10-10a13=lo 10a14=cn 10a15-10a17=lo 10a18=cn 10a19-10a35=lo 10a36-10a37=cn
10a38-10a3a=mn 10a3b-10a3e=cn 10a3f=mn 10a40-10a48=no 10a49-10a4f=cn 10a50-10a58=po 10a59-10a5f=cn
10a60-10a7c=lo 10a7d-10a7e=no 10a7f=po 10a80-10a9c=lo 10a9d-10a9f=no 10aa0-10abf=cn 10ac0-10ac7=lo
10ac8=so 10ac9-10ae4=lo 10ae5-10ae6=mn 10ae7-10aea=cn 10aeb-10aef=no 10af0-10af6=po 10af7-10aff=cn
10b00-10b35=lo 10b36-10b38=cn 10b39-10b3f=po 10b40-10b55=lo 10b56-10b57=cn 10b58-10b5f=no
10b60-10b72=lo 10b73-10b77=cn 10b78-10b7f=no 10b80-10b91=lo 10b92-10b98=cn 10b99-10b9c=po
10b9d-10ba8=cn 10ba9-10baf=no 10bb0-10bff=cn 10c00-10c48=lo 10c49-10c7f=cn 10c80-10cb2=lu
10cb3-10cbf=cn 10cc0-10cf2=ll 10cf3-10cf9=cn 10cfa-10cff=no 10d00-10d23=lo 10d24-10d27=mn
10d28-10d2f=cn 10d30-10d39=nd 10d3a-10d3f=cn 10d40-10d49=nd 10d4a-10d4d=lo 10d4e=lm 10d4f=lo
10d50-10d65=lu 10d66-10d68=cn 10d69-10d6d=mn 10d6e=pd 10d6f=lm 10d70-10d85=ll 10d86-10d8d=cn
10d8e-10d8f=sm 10d90-10e5f=cn 10e60-10e7e=no 10e7f=cn 10e80-10ea9=lo 10eaa=cn 10eab-10eac=mn
10ead=pd 10eae-10eaf=cn 10eb0-10eb1=lo 10eb2-10ec1=cn 10ec2-10ec4=lo 10ec5-10efb=cn 10efc-10eff=mn
10f00-10f1c=lo 10f1d-10f26=no 10f27=lo 10f28-10f2f=cn 10f30-10f45=lo 10f46-10f50=mn 10f51-10f54=no
10f55-10f59=po 10f5a-10f6f=cn 10f70-10f81=lo 10f82-10f85=mn 10f86-10f89=po 10f8a-10faf=cn
10fb0-10fc4=lo 10fc5-10fcb=no 10fcc-10fdf=cn 10fe0-10ff6=lo 10ff7-10fff=cn 11000=mc 11001=mn
11002=mc 11003-11037=lo 11038-11046=mn 11047-1104d=po 1104e-11051=cn 11052-11065=no 11066-1106f=nd
11070=mn 11071-11072=lo 11073-11074=mn 11075=lo 11076-1107e=cn 1107f-11081=mn 11082=mc
11083-110af=lo 110b0-110b2=mc 110b3-110b6=mn 110b7-110b8=mc 110b9-110ba=mn 110bb-110bc=po 110bd=cf
110be-110c1=po 110c2=mn 110c3-110cc=cn 110cd=cf 110ce-110cf=cn 110d0-110e8=lo 110e9-110ef=cn
110f0-110f9=nd 110fa-110ff=cn 11100-11102=mn 11103-11126=lo 11127-1112b=mn 1112c=mc 1112d-11134=mn
11135=cn 11136-1113f=nd 11140-11143=po 11144=lo 11145-11146=mc 11147=lo 11148-1114f=cn
11150-11172=lo 11173=mn 11174-11175=po 11176=lo 11177-1117f=cn 11180-11181=mn 11182=mc
11183-111b2=lo 111b3-111b5=mc 111b6-111be=mn 111bf-111c0=mc 111c1-111c4=lo 111c5-111c8=po
111c9-111cc=mn 111cd=po 111ce=mc 111cf=mn 111d0-111d9=nd 111da=lo 111db=po 111dc=lo 111dd-111df=po
111e0=cn 111e1-111f4=no 111f5-111ff=cn 11200-11211=lo 11212=cn 11213-1122b=lo 1122c-1122e=mc
1122f-11231=mn 11232-11233=mc 11234=mn 11235=mc 11236-11237=mn 11238-1123d=po 1123e=mn
1123f-11240=lo 11241=mn 11242-1127f=cn 11280-11286=lo 11287=cn 11288=lo 11289=cn 1128a-1128d=lo
1128e=cn 1128f-1129d=lo 1129e=cn 1129f-112a8=lo 112a9=po 112aa-112af=cn 112b0-112de=lo 112df=mn
112e0-112e2=mc 112e3-112ea=mn 112eb-112ef=cn 112f0-112f9=nd 112fa-112ff=cn 11300-11301=mn
11302-11303=mc 11304=cn 11305-1130c=lo 1130d-1130e=cn 1130f-11310=lo 11311-11312=cn 11313-11328=lo
11329=cn 1132a-11330=lo 11331=cn 11332-11333=lo 11334=cn 11335-11339=lo 1133a=cn 1133b-1133c=mn
1133d=lo 1133e-1133f=mc 11340=mn 11341-11344=mc 11345-11346=cn 11347-11348=mc 11349-1134a=cn
1134b-1134d=mc 1134e-1134f=cn 11350=lo 11351-11356=cn 11357=mc 11358-1135c=cn 1135d-11361=lo
11362-11363=mc 11364-11365=cn 11366-1136c=mn 1136d-1136f=cn 11370-11374=mn 11375-1137f=cn
11380-11389=lo 1138a=cn 1138b=lo 1138c-1138d=cn 1138e=lo 1138f=cn 11390-113b5=lo 113b6=cn 113b7=lo
113b8-113ba=mc 113bb-113c0=mn 113c1=cn 113c2=mc 113c3-113c4=cn 113c5=mc 113c6=cn 113c7-113ca=mc
113cb=cn 113cc-113cd=mc 113ce=mn 113cf=mc 113d0=mn 113d1=lo 113d2=mn 113d3=lo 113d4-113d5=po
113d6=cn 113d7-113d8=po 113d9-113e0=cn 113e1-113e2=mn 113e3-113ff=cn 11400-11434=lo 11435-11437=mc
11438-1143f=mn 11440-11441=mc 11442-11444=mn 11445=mc 11446=mn 11447-1144a=lo 1144b-1144f=po
11450-11459=nd 1145a-1145b=po 1145c=cn 1145d=po 1145e=mn 1145f-11461=lo 11462-1147f=cn
11480-114af=lo 114b0-114b2=mc 114b3-114b8=mn 114b9=mc 114ba=mn 114bb-114be=mc 114bf-114c0=mn
114c1=mc 114c2-114c3=mn 114c4-114c5=lo 114c6=po 114c7=lo 114c8-114cf=cn 114d0-114d9=nd
114da-1157f=cn 11580-115ae=lo 115af-115b1=mc 115b2-115b5=mn 115b6-115b7=cn 115b8-115bb=mc
115bc-115bd=mn 115be=mc 115bf-115c0=mn 115c1-115d7=po 115d8-115db=lo 115dc-115dd=mn 115de-115ff=cn
11600-1162f=lo 11630-11632=mc 11633-1163a=mn 1163b-1163c=mc 1163d=mn 1163e=mc 1163f-11640=mn
11641-11643=po 11644=lo 11645-1164f=cn 11650-11659=nd 1165a-1165f=cn 11660-1166c=po 1166d-1167f=cn
11680-116aa=lo 116ab=mn 116ac=mc 116ad=mn 116ae-116af=mc 116b0-116b5=mn 116b6=mc 116b7=mn 116b8=lo
116b9=po 116ba-116bf=cn 116c0-116c9=nd 116ca-116cf=cn 116d0-116e3=nd 116e4-116ff=cn 11700-1171a=lo
1171b-1171c=cn 1171d=mn 1171e=mc 1171f=mn 11720-11721=mc 11722-11725=mn 11726=mc 11727-1172b=mn
1172c-1172f=cn 11730-11739=nd 1173a-1173b=no 1173c-1173e=po 1173f=so 11740-11746=lo 11747-117ff=cn
11800-1182b=lo 1182c-1182e=mc 1182f-11837=mn 11838=mc 11839-1183a=mn 1183b=po 1183c-1189f=cn
118a0-118bf=lu 118c0-118df=ll 118e0-118e9=nd 118ea-118f2=no 118f3-118fe=cn 118ff-11906=lo
11907-11908=cn 11909=lo 1190a-1190b=cn 1190c-11913=lo 11914=cn 11915-11916=lo 11917=cn
11918-1192f=lo 11930-11935=mc 11936=cn 11937-11938=mc 11939-1193a=cn 1193b-1193c=mn 1193d=mc
1193e=mn 1193f=lo 11940=mc 11941=lo 11942=mc 11943=mn 11944-11946=po 11947-1194f=cn 11950-11959=nd
1195a-1199f=cn 119a0-119a7=lo 119a8-119a9=cn 119aa-119d0=lo 119d1-119d3=mc 119d4-119d7=mn
119d8-119d9=cn 119da-119db=mn 119dc-119df=mc 119e0=mn 119e1=lo 119e2=po 119e3=lo 119e4=mc
119e5-119ff=cn 11a00=lo 11a01-11a0a=mn 11a0b-11a32=lo 11a33-11a38=mn 11a39=mc 11a3a=lo
11a3b-11a3e=mn 11a3f-11a46=po 11a47=mn 11a48-11a4f=cn 11a50=lo 11a51-11a56=mn 11a57-11a58=mc
11a59-11a5b=mn 11a5c-11a89=lo 11a8a-11a96=mn 11a97=mc 11a98-11a99=mn 11a9a-11a9c=po 11a9d=lo
11a9e-11aa2=po 11aa3-11aaf=cn 11ab0-11af8=lo 11af9-11aff=cn 11b00-11b09=po 11b0a-11bbf=cn
11bc0-11be0=lo 11be1=po 11be2-11bef=cn 11bf0-11bf9=nd 11bfa-11bff=cn 11c00-11c08=lo 11c09=cn
11c0a-11c2e=lo 11c2f=mc 11c30-11c36=mn 11c37=cn 11c38-11c3d=mn 11c3e=mc 11c3f=mn 11c40=lo
11c41-11c45=po 11c46-11c4f=cn 11c50-11c59=nd 11c5a-11c6c=no 11c6d-11c6f=cn 11c70-11c71=po
11c72-11c8f=lo 11c90-11c91=cn 11c92-11ca7=mn 11ca8=cn 11ca9=mc 11caa-11cb0=mn 11cb1=mc
11cb2-11cb3=mn 11cb4=mc 11cb5-11cb6=mn 11cb7-11cff=cn 11d00-11d06=lo 11d07=cn 11d08-11d09=lo
11d0a=cn 11d0b-11d30=lo 11d31-11d36=mn 11d37-11d39=cn 11d3a=mn 11d3b=cn 11d3c-11d3d=mn 11d3e=cn
11d3f-11d45=mn 11d46=lo 11d47=mn 11d48-11d4f=cn 11d50-11d59=nd 11d5a-11d5f=cn 11d60-11d65=lo
11d66=cn 11d67-11d68=lo 11d69=cn 11d6a-11d89=lo 11d8a-11d8e=mc 11d8f=cn 11d90-11d91=mn 11d92=cn
11d93-11d94=mc 11d95=mn 11d96=mc 11d97=mn 11d98=lo 11d99-11d9f=cn 11da0-11da9=nd 11daa-11edf=cn
11ee0-11ef2=lo 11ef3-11ef4=mn 11ef5-11ef6=mc 11ef7-11ef8=po 11ef9-11eff=cn 11f00-11f01=mn 11f02=lo
11f03=mc 11f04-11f10=lo 11f11=cn 11f12-11f33=lo 11f34-11f35=mc 11f36-11f3a=mn 11f3b-11f3d=cn
11f3e-11f3f=mc 11f40=mn 11f41=mc 11f42=mn 11f43-11f4f=po 11f50-11f59=nd 11f5a=mn 11f5b-11faf=cn
11fb0=lo 11fb1-11fbf=cn 11fc0-11fd4=no 11fd5-11fdc=so 11fdd-11fe0=sc 11fe1-11ff1=so 11ff2-11ffe=cn
11fff=po 12000-12399=lo 1239a-123ff=cn 12400-1246e=nl 1246f=cn 12470-12474=po 12475-1247f=cn
12480-12543=lo 12544-12f8f=cn 12f90-12ff0=lo 12ff1-12ff2=po 12ff3-12fff=cn 13000-1342f=lo
13430-1343f=cf 13440=mn 13441-13446=lo 13447-13455=mn 13456-1345f=cn 13460-143fa=lo 143fb-143ff=cn
14400-14646=lo 14647-160ff=cn 16100-1611d=lo 1611e-16129=mn 1612a-1612c=mc 1612d-1612f=mn
16130-16139=nd 1613a-167ff=cn 16800-16a38=lo 16a39-16a3f=cn 16a40-16a5e=lo 16a5f=cn 16a60-16a69=nd
16a6a-16a6d=cn 16a6e-16a6f=po 16a70-16abe=lo 16abf=cn 16ac0-16ac9=nd 16aca-16acf=cn 16ad0-16aed=lo
16aee-16aef=cn 16af0-16af4=mn 16af5=po 16af6-16aff=cn 16b00-16b2f=lo 16b30-16b36=mn 16b37-16b3b=po
16b3c-16b3f=so 16b40-16b43=lm 16b44=po 16b45=so 16b46-16b4f=cn 16b50-16b59=nd 16b5a=cn
16b5b-16b61=no 16b62=cn 16b63-16b77=lo 16b78-16b7c=cn 16b7d-16b8f=lo 16b90-16d3f=cn 16d40-16d42=lm
16d43-16d6a=lo 16d6b-16d6c=lm 16d6d-16d6f=po 16d70-16d79=nd 16d7a-16e3f=cn 16e40-16e5f=lu
16e60-16e7f=ll 16e80-16e96=no 16e97-16e9a=po 16e9b-16eff=cn 16f00-16f4a=lo 16f4b-16f4e=cn 16f4f=mn
16f50=lo 16f51-16f87=mc 16f88-16f8e=cn 16f8f-16f92=mn 16f93-16f9f=lm 16fa0-16fdf=cn 16fe0-16fe1=lm
16fe2=po 16fe3=lm 16fe4=mn 16fe5-16fef=cn 16ff0-16ff1=mc 16ff2-16fff=cn 17000-187f7=lo
187f8-187ff=cn 18800-18cd5=lo 18cd6-18cfe=cn 18cff-18d08=lo 18d09-1afef=cn 1aff0-1aff3=lm 1aff4=cn
1aff5-1affb=lm 1affc=cn 1affd-1affe=lm 1afff=cn 1b000-1b122=lo 1b123-1b131=cn 1b132=lo
1b133-1b14f=cn 1b150-1b152=lo 1b153-1b154=cn 1b155=lo 1b156-1b163=cn 1b164-1b167=lo 1b168-1b16f=cn
1b170-1b2fb=lo 1b2fc-1bbff=cn 1bc00-1bc6a=lo 1bc6b-1bc6f=cn 1bc70-1bc7c=lo 1bc7d-1bc7f=cn
1bc80-1bc88=lo 1bc89-1bc8f=cn 1bc90-1bc99=lo 1bc9a-1bc9b=cn 1bc9c=so 1bc9d-1bc9e=mn 1bc9f=po
1bca0-1bca3=cf 1bca4-1cbff=cn 1cc00-1ccef=so 1ccf0-1ccf9=nd 1ccfa-1ccff=cn 1cd00-1ceb3=so
1ceb4-1ceff=cn 1cf00-1cf2d=mn 1cf2e-1cf2f=cn 1cf30-1cf46=mn 1cf47-1cf4f=cn 1cf50-1cfc3=so
1cfc4-1cfff=cn 1d000-1d0f5=so 1d0f6-1d0ff=cn 1d100-1d126=so 1d127-1d128=cn 1d129-1d164=so
1d165-1d166=mc 1d167-1d169=mn 1d16a-1d16c=so 1d16d-1d172=mc 1d173-1d17a=cf 1d17b-1d182=mn
1d183-1d184=so 1d185-1d18b=mn 1d18c-1d1a9=so 1d1aa-1d1ad=mn 1d1ae-1d1ea=so 1d1eb-1d1ff=cn
1d200-1d241=so 1d242-1d244=mn 1d245=so 1d246-1d2bf=cn 1d2c0-1d2d3=no 1d2d4-1d2df=cn 1d2e0-1d2f3=no
1d2f4-1d2ff=cn 1d300-1d356=so 1d357-1d35f=cn 1d360-1d378=no 1d379-1d3ff=cn 1d400-1d419=lu
1d41a-1d433=ll 1d434-1d44d=lu 1d44e-1d454=ll 1d455=cn 1d456-1d467=ll 1d468-1d481=lu 1d482-1d49b=ll
1d49c=lu 1d49d=cn 1d49e-1d49f=lu 1d4a0-1d4a1=cn 1d4a2=lu 1d4a3-1d4a4=cn 1d4a5-1d4a6=lu
1d4a7-1d4a8=cn 1d4a9-1d4ac=lu 1d4ad=cn 1d4ae-1d4b5=lu 1d4b6-1d4b9=ll 1d4ba=cn 1d4bb=ll 1d4bc=cn
1d4bd-1d4c3=ll 1d4c4=cn 1d4c5-1d4cf=ll 1d4d0-1d4e9=lu 1d4ea-1d503=ll 1d504-1d505=lu 1d506=cn
1d507-1d50a=lu 1d50b-1d50c=cn 1d50d-1d514=lu 1d515=cn 1d516-1d51c=lu 1d51d=cn 1d51e-1d537=ll
1d538-1d539=lu 1d53a=cn 1d53b-1d53e=lu 1d53f=cn 1d540-1d544=lu 1d545=cn 1d546=lu 1d547-1d549=cn
1d54a-1d550=lu 1d551=cn 1d552-1d56b=ll 1d56c-1d585=lu 1d586-1d59f=ll 1d5a0-1d5b9=lu 1d5ba-1d5d3=ll
1d5d4-1d5ed=lu 1d5ee-1d607=ll 1d608-1d621=lu 1d622-1d63b=ll 1d63c-1d655=lu 1d656-1d66f=ll
1d670-1d689=lu 1d68a-1d6a5=ll 1d6a6-1d6a7=cn 1d6a8-1d6c0=lu 1d6c1=sm 1d6c2-1d6da=ll 1d6db=sm
1d6dc-1d6e1=ll 1d6e2-1d6fa=lu 1d6fb=sm 1d6fc-1d714=ll 1d715=sm 1d716-1d71b=ll 1d71c-1d734=lu
1d735=sm 1d736-1d74e=ll 1d74f=sm 1d750-1d755=ll 1d756-1d76e=lu 1d76f=sm 1d770-1d788=ll 1d789=sm
1d78a-1d78f=ll 1d790-1d7a8=lu 1d7a9=sm 1d7aa-1d7c2=ll 1d7c3=sm 1d7c4-1d7c9=ll 1d7ca=lu 1d7cb=ll
1d7cc-1d7cd=cn 1d7ce-1d7ff=nd 1d800-1d9ff=so 1da00-1da36=mn 1da37-1da3a=so 1da3b-1da6c=mn
1da6d-1da74=so 1da75=mn 1da76-1da83=so 1da84=mn 1da85-1da86=so 1da87-1da8b=po 1da8c-1da9a=cn
1da9b-1da9f=mn 1daa0=cn 1daa1-1daaf=mn 1dab0-1deff=cn 1df00-1df09=ll 1df0a=lo 1df0b-1df1e=ll
1df1f-1df24=cn 1df25-1df2a=ll 1df2b-1dfff=cn 1e000-1e006=mn 1e007=cn 1e008-1e018=mn 1e019-1e01a=cn
1e01b-1e021=mn 1e022=cn 1e023-1e024=mn 1e025=cn 1e026-1e02a=mn 1e02b-1e02f=cn 1e030-1e06d=lm
1e06e-1e08e=cn 1e08f=mn 1e090-1e0ff=cn 1e100-1e12c=lo 1e12d-1e12f=cn 1e130-1e136=mn 1e137-1e13d=lm
1e13e-1e13f=cn 1e140-1e149=nd 1e14a-1e14d=cn 1e14e=lo 1e14f=so 1e150-1e28f=cn 1e290-1e2ad=lo
1e2ae=mn 1e2af-1e2bf=cn 1e2c0-1e2eb=lo 1e2ec-1e2ef=mn 1e2f0-1e2f9=nd 1e2fa-1e2fe=cn 1e2ff=sc
1e300-1e4cf=cn 1e4d0-1e4ea=lo 1e4eb=lm 1e4ec-1e4ef=mn 1e4f0-1e4f9=nd 1e4fa-1e5cf=cn 1e5d0-1e5ed=lo
1e5ee-1e5ef=mn 1e5f0=lo 1e5f1-1e5fa=nd 1e5fb-1e5fe=cn 1e5ff=po 1e600-1e7df=cn 1e7e0-1e7e6=lo
1e7e7=cn 1e7e8-1e7eb=lo 1e7ec=cn 1e7ed-1e7ee=lo 1e7ef=cn 1e7f0-1e7fe=lo 1e7ff=cn 1e800-1e8c4=lo
1e8c5-1e8c6=cn 1e8c7-1e8cf=no 1e8d0-1e8d6=mn 1e8d7-1e8ff=cn 1e900-1e921=lu 1e922-1e943=ll
1e944-1e94a=mn 1e94b=lm 1e94c-1e94f=cn 1e950-1e959=nd 1e95a-1e95d=cn 1e95e-1e95f=po 1e960-1ec70=cn
1ec71-1ecab=no 1ecac=so 1ecad-1ecaf=no 1ecb0=sc 1ecb1-1ecb4=no 1ecb5-1ed00=cn 1ed01-1ed2d=no
1ed2e=so 1ed2f-1ed3d=no 1ed3e-1edff=cn 1ee00-1ee03=lo 1ee04=cn 1ee05-1ee1f=lo 1ee20=cn
1ee21-1ee22=lo 1ee23=cn 1ee24=lo 1ee25-1ee26=cn 1ee27=lo 1ee28=cn 1ee29-1ee32=lo 1ee33=cn
1ee34-1ee37=lo 1ee38=cn 1ee39=lo 1ee3a=cn 1ee3b=lo 1ee3c-1ee41=cn 1ee42=lo 1ee43-1ee46=cn 1ee47=lo
1ee48=cn 1ee49=lo 1ee4a=cn 1ee4b=lo 1ee4c=cn 1ee4d-1ee4f=lo 1ee50=cn 1ee51-1ee52=lo 1ee53=cn
1ee54=lo 1ee55-1ee56=cn 1ee57=lo 1ee58=cn 1ee59=lo 1ee5a=cn 1ee5b=lo 1ee5c=cn 1ee5d=lo 1ee5e=cn
1ee5f=lo 1ee60=cn 1ee61-1ee62=lo 1ee63=cn 1ee64=lo 1ee65-1ee66=cn 1ee67-1ee6a=lo 1ee6b=cn
1ee6c-1ee72=lo 1ee73=cn 1ee74-1ee77=lo 1ee78=cn 1ee79-1ee7c=lo 1ee7d=cn 1ee7e=lo 1ee7f=cn
1ee80-1ee89=lo 1ee8a=cn 1ee8b-1ee9b=lo 1ee9c-1eea0=cn 1eea1-1eea3=lo 1eea4=cn 1eea5-1eea9=lo
1eeaa=cn 1eeab-1eebb=lo 1eebc-1eeef=cn 1eef0-1eef1=sm 1eef2-1efff=cn 1f000-1f02b=so 1f02c-1f02f=cn
1f030-1f093=so 1f094-1f09f=cn 1f0a0-1f0ae=so 1f0af-1f0b0=cn 1f0b1-1f0bf=so 1f0c0=cn 1f0c1-1f0cf=so
1f0d0=cn 1f0d1-1f0f5=so 1f0f6-1f0ff=cn 1f100-1f10c=no 1f10d-1f1ad=so 1f1ae-1f1e5=cn 1f1e6-1f202=so
1f203-1f20f=cn 1f210-1f23b=so 1f23c-1f23f=cn 1f240-1f248=so 1f249-1f24f=cn 1f250-1f251=so
1f252-1f25f=cn 1f260-1f265=so 1f266-1f2ff=cn 1f300-1f3fa=so 1f3fb-1f3ff=sk 1f400-1f6d7=so
1f6d8-1f6db=cn 1f6dc-1f6ec=so 1f6ed-1f6ef=cn 1f6f0-1f6fc=so 1f6fd-1f6ff=cn 1f700-1f776=so
1f777-1f77a=cn 1f77b-1f7d9=so 1f7da-1f7df=cn 1f7e0-1f7eb=so 1f7ec-1f7ef=cn 1f7f0=so 1f7f1-1f7ff=cn
1f800-1f80b=so 1f80c-1f80f=cn 1f810-1f847=so 1f848-1f84f=cn 1f850-1f859=so 1f85a-1f85f=cn
1f860-1f887=so 1f888-1f88f=cn 1f890-1f8ad=so 1f8ae-1f8af=cn 1f8b0-1f8bb=so 1f8bc-1f8bf=cn
1f8c0-1f8c1=so 1f8c2-1f8ff=cn 1f900-1fa53=so 1fa54-1fa5f=cn 1fa60-1fa6d=so 1fa6e-1fa6f=cn
1fa70-1fa7c=so 1fa7d-1fa7f=cn 1fa80-1fa89=so 1fa8a-1fa8e=cn 1fa8f-1fac6=so 1fac7-1facd=cn
1face-1fadc=so 1fadd-1fade=cn 1fadf-1fae9=so 1faea-1faef=cn 1faf0-1faf8=so 1faf9-1faff=cn
1fb00-1fb92=so 1fb93=cn 1fb94-1fbef=so 1fbf0-1fbf9=nd 1fbfa-1ffff=cn 20000-2a6df=lo 2a6e0-2a6ff=cn
2a700-2b739=lo 2b73a-2b73f=cn 2b740-2b81d=lo 2b81e-2b81f=cn 2b820-2cea1=lo 2cea2-2ceaf=cn
2ceb0-2ebe0=lo 2ebe1-2ebef=cn 2ebf0-2ee5d=lo 2ee5e-2f7ff=cn 2f800-2fa1d=lo 2fa1e-2ffff=cn
30000-3134a=lo 3134b-3134f=cn 31350-323af=lo 323b0-e0000=cn e0001=cf e0002-e001f=cn e0020-e007f=cf
e0080-e00ff=cn e0100-e01ef=mn e01f0-effff=cn f0000-ffffd=co ffffe-fffff=cn 100000-10fffd=co
10fffe-10ffff=cn
"

/-- The two-letter and one-letter codes, each followed by its other normalised names. -/
def generalCategoryNames : List Names := Names.read "
c other
cc cntrl control
cf format
cn unassigned
co privateuse
cs surrogate
l letter
lc casedletter
ll lowercaseletter
lm modifierletter
lo otherletter
lt titlecaseletter
lu uppercaseletter
m combiningmark mark
mc spacingmark
me enclosingmark
mn nonspacingmark
n number
nd decimalnumber digit
nl letternumber
no othernumber
p punct punctuation
pc connectorpunctuation
pd dashpunctuation
pe closepunctuation
pf finalpunctuation
pi initialpunctuation
po otherpunctuation
ps openpunctuation
s symbol
sc currencysymbol
sk modifiersymbol
sm mathsymbol
so othersymbol
z separator
zl lineseparator
zp paragraphseparator
zs spaceseparator
"

/-- The values whose category is one of the given codes. -/
def ofCategories (codes : List String) : IntervalSet :=
  IntervalSet.ofList <| generalCategoryRows.filterMap fun r =>
    if codes.contains r.label then some r.interval else none

def letters : IntervalSet := ofCategories ["lu", "ll", "lt", "lm", "lo"]

/-- Combining marks of every kind. -/
def marks : IntervalSet := ofCategories ["mn", "mc", "me"]

/-- The numbers no character can have, between the two halves of the code space. -/
def surrogates : Interval := ⟨0xD800, 0xDFFF⟩

/-- The codes a group of categories stands for. -/
def categoryGroup : String → Option (List String)
  | "l" => some ["lu", "ll", "lt", "lm", "lo"]
  | "lc" => some ["lu", "ll", "lt"]
  | "m" => some ["mn", "mc", "me"]
  | "n" => some ["nd", "nl", "no"]
  | "p" => some ["pc", "pd", "ps", "pe", "pi", "pf", "po"]
  | "s" => some ["sm", "sc", "sk", "so"]
  | "z" => some ["zs", "zl", "zp"]
  | _ => none

/--
The values of a category or group, by its code. The group `c` includes the surrogates, so that the
unassigned and private-use values on either side of them form one stretch. A code without values,
such as that of the surrogates alone, is no category.
-/
def category? (code : String) : Option IntervalSet :=
  match categoryGroup code with
  | some codes => some (ofCategories codes)
  | none =>
    if code = "c" then
      some ((ofCategories ["cc", "cf", "cn", "co"]).union ⟨[surrogates]⟩)
    else
      let s := ofCategories [code]
      if s.isEmpty then none else some s

end Multimatch.Unicode
